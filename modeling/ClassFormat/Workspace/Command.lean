import ClassFormat.Document.Edit
import ClassFormat.Summary
import ClassFormat.Workspace.PoolCommand

/-!
# Commands of a workspace

Commands refer to open class files and to handles by name.  Answers hold the values themselves; a
name that leads nowhere inside an answer is a misuse there and does not spoil the rest of it.
-/

namespace ClassFormat

/-- What a handle can be taken from. -/
inductive HandleSource where
  | thisClass
  | superClass
  | interface (position : Nat)
  /-- The class constant at an index. -/
  | classAt (index : UInt16)
  /-- The string constant at an index. -/
  | utf8At (index : UInt16)
  | member (table : MemberTable) (position : Nat)
  | memberName (table : MemberTable) (position : Nat)
  | memberDescriptor (table : MemberTable) (position : Nat)
  | attributeName (position : Nat)

/-- A step on access flags that may name its bit by a keyword. -/
inductive FlagRequest where
  | keyword (word : String) (value : Bool)
  | step (inner : FlagStep)

/-- The step that a request means.  An unknown keyword stands for no bit. -/
def FlagRequest.resolve (context : FlagContext) : FlagRequest → FlagStep
  | .keyword word value => .set ((context.maskOf? word).getD 0) value
  | .step inner => inner

/-- An edit whose handles are given by name. -/
inductive EditRequest where
  | setThisClass (handle : String)
  | setSuperClass (handle? : Option String)
  /-- The interfaces are the handles, repeated a number of times. -/
  | setInterfaces (handles : List String) (times : Nat)
  | setMemberName (member handle : String)
  | setMemberDescriptor (member handle : String)
  | setUtf8 (handle : String) (text : String)
  | addUtf8 (text : String)
  | addClass (handle : String)
  | classFlags (steps : List FlagRequest)
  | memberFlags (handle : String) (steps : List FlagRequest)

/-- A change of a class file that nothing checks. -/
inductive Assignment where
  | minorVersion (value : UInt16)
  | majorVersion (value : UInt16)
  | accessFlags (value : UInt16)
  | thisClass (value : UInt16)
  | superClass (value : UInt16)
  | interfaces (value : List UInt16)
  | members (table : MemberTable) (value : List Member)
  | attributes (value : List Attribute)

/-- Assign a field. -/
def ClassFile.assign (file : ClassFile) : Assignment → ClassFile
  | .minorVersion value => { file with minorVersion := value }
  | .majorVersion value => { file with majorVersion := value }
  | .accessFlags value => { file with accessFlags := value }
  | .thisClass value => { file with thisClass := value }
  | .superClass value => { file with superClass := value }
  | .interfaces value => { file with interfaces := value }
  | .members table value => file.withTable table value
  | .attributes value => { file with attributes := value }

/-- What attributes belong to. -/
inductive AttributeHolder where
  | classFile
  | member (table : MemberTable) (position : Nat)

/-- The attributes of a class or of one of its members. -/
def ClassFile.attributesOf? (file : ClassFile) : AttributeHolder → Option (List Attribute)
  | .classFile => some file.attributes
  | .member table position => (file.table table)[position]?.map Member.attributes

/-- A question about an open class file. -/
inductive Query where
  | classInfo (handle : String)
  | utf8Info (handle : String)
  | member (handle : String)
  | findMember (table : MemberTable) (name descriptor : String)
  | findAttribute (holder : AttributeHolder) (name : String)
  | constant (index : UInt16)
  /-- The sizes of the tables, and what they have at a position. -/
  | tables (position : Nat)
  | encode
  /-- Write to a buffer of fixed size. -/
  | write (size : Nat)
  /-- The stored content with its encoding. -/
  | dump
  /-- The content with its names. -/
  | view
  | summary

/-- A command of a workspace. -/
inductive Command where
  | parse (name : String) (bytes : Bytes) (trailing : TrailingData)
  | clone (document name : String)
  /-- Write a class file and open the bytes as a new one. -/
  | reparse (document name : String)
  | compare (left right : String)
  | compareHandles (left right : String)
  | take (document : String) (source : HandleSource) (name : String)
  /-- Take the name of the class of a handle. -/
  | takeClassName (document handle name : String)
  | edit (document : String) (request : EditRequest) (name? : Option String)
  | assign (document : String) (assignment : Assignment)
  | pool (document : String) (command : PoolCommand)
  | inspect (document : String) (query : Query)

/-- What a command gives back. -/
inductive Answer where
  /-- A class file has been opened. -/
  | opened (identity : Identity)
  /-- A handle has been taken. -/
  | taken (handle : Handle)
  /-- There is no such thing. -/
  | absent
  | done
  | compared (equal sameIdentity : Bool)
  | handlesCompared (equal : Bool)
  | classInfo (index : UInt16) (name : Except Misuse String) (nameIndex : Except Misuse UInt16)
  | utf8Info (index : UInt16) (string : Except Misuse ModifiedUtf8)
  | member (pool : ConstantPool) (table : MemberTable) (position : Nat) (member : Member)
  | flags (context : FlagContext) (reports : List FlagReport)
  | pool (answer : PoolAnswer)
  | foundMember (position? : Option Nat)
  | foundAttribute (item : Attribute)
  | constant (pool : ConstantPool) (index : UInt16)
  | tables (file : ClassFile) (position : Nat)
  | encoded (bytes : Bytes)
  | written (written : Written)
  | dump (file : ClassFile) (encoded : Except EncodeError Bytes)
  | view (file : ClassFile)
  | summary (text : String)

/-- Why a command failed. -/
inductive Failure where
  | unknownHandle
  | unknownDocument
  | misuse (misuse : Misuse)
  | decode (error : DecodeError)
  | encode (error : EncodeError)
  | poolFull (cause : PoolFull)
  | replace (error : ReplaceError)
  | unresolved (error : Unresolved)

/-- The failure of a refused edit. -/
def Failure.ofRefusal : Refusal → Failure
  | .misuse mistake => .misuse mistake
  | .poolFull cause => .poolFull cause

/-- The failure of a command on a constant pool. -/
def Failure.ofPool : PoolFailure → Failure
  | .replace error => .replace error
  | .decode error => .decode error

/-- The outcome of a command and the events on the way. -/
structure Reply where
  result : Except Failure Answer
  events : List Event

end ClassFormat
