/-
The types a setting may have. A type is a code, and every code says which Lean type its values
have, which value a setting of it usually holds before anything is read, and what its name is, with
the path of every name in it.

Next to the built-in types an application has types of its own. It names them by codes of a
type `A` and says what they are in an instance of `AppTypes A`; one of its types may come without
a reading, and then only a registered converter can read it. The application also brings the
library along that reads dates.
-/
import EnvSettings.Number.Integer
import EnvSettings.Number.BinaryFloat
import EnvSettings.Address.Socket
import EnvSettings.Time.Duration
import EnvSettings.Time.Timestamp
import EnvSettings.ByteSize
import EnvSettings.Value.ParseError

namespace EnvSettings

open EnvSettings.Number EnvSettings.Address EnvSettings.Time

-- ========================================================== built-in types

/-- The built-in types that are neither lists nor options. -/
inductive ScalarType
  | bool
  | string
  | int (type : IntType)
  | float (format : FloatFormat)
  | duration
  | timestamp
  | path
  | ip
  | ipv4
  | ipv6
  | socket
  | byteSize
  deriving Repr, DecidableEq

namespace ScalarType

/-- The values of a built-in type. -/
def Value : ScalarType → Type
  | .bool => Bool
  | .string => String
  | .int type => type.Value
  | .float _ => BinaryFloat
  | .duration => Duration
  | .timestamp => Timestamp
  | .path => String
  | .ip => Ip
  | .ipv4 => Ipv4
  | .ipv6 => Ipv6
  | .socket => Socket
  | .byteSize => ByteSize

/-- What a setting of the type holds before anything is read, if nothing else is said. -/
def initial : (s : ScalarType) → s.Value
  | .bool => false
  | .string => ""
  | .int type => type.zero
  | .float _ => BinaryFloat.finite false 0
  | .duration => (⟨0⟩ : Duration)
  | .timestamp => Timestamp.epoch
  | .path => ""
  | .ip => Ip.v4 .unspecified
  | .ipv4 => Ipv4.unspecified
  | .ipv6 => Ipv6.unspecified
  | .socket => Socket.unspecified
  | .byteSize => ByteSize.zero

/-- The full name of a built-in type. -/
def name : ScalarType → String
  | .bool => "bool"
  | .string => "alloc::string::String"
  | .int type => type.name
  | .float format => format.name
  | .duration => "core::time::Duration"
  | .timestamp => "chrono::datetime::DateTime<chrono::offset::utc::Utc>"
  | .path => "std::path::PathBuf"
  | .ip => "core::net::ip_addr::IpAddr"
  | .ipv4 => "core::net::ip_addr::Ipv4Addr"
  | .ipv6 => "core::net::ip_addr::Ipv6Addr"
  | .socket => "core::net::socket_addr::SocketAddr"
  | .byteSize => "envdecode::bsize::ByteSize"

end ScalarType

-- =============================================================== all types

/-- What an application says about the types that it adds, named by the codes `A`, and the library
with which it reads dates. -/
class AppTypes (A : Type) where
  /-- The values of a type. -/
  Value : A → Type
  /-- The full name of a type. -/
  name : A → String
  /-- What a setting of the type holds before anything is read. -/
  initial : (a : A) → Value a
  /-- How a text is read, if the type has a reading of its own. -/
  read? : (a : A) → Option (String → Except ParseError (Value a))
  /-- How dates are read. -/
  calendar : Calendar

/-- The types a setting may have. -/
inductive TypeCode (A : Type)
  | scalar (s : ScalarType)
  | app (a : A)
  | list (element : TypeCode A)
  | option (inner : TypeCode A)
  deriving Repr, DecidableEq

namespace TypeCode

variable {A : Type} [AppTypes A]

/-- The values of a type. -/
def Value : TypeCode A → Type
  | .scalar s => s.Value
  | .app a => AppTypes.Value a
  | .list t => List t.Value
  | .option t => Option t.Value

/-- What a setting of the type holds before anything is read, if nothing else is said. -/
def initial : (t : TypeCode A) → t.Value
  | .scalar s => s.initial
  | .app a => AppTypes.initial a
  | .list _ => []
  | .option _ => none

/-- The full name of a type. -/
def name : TypeCode A → String
  | .scalar s => s.name
  | .app a => AppTypes.name a
  | .list t => s!"alloc::vec::Vec<{t.name}>"
  | .option t => s!"core::option::Option<{t.name}>"

/-- Built from types that can be read without a converter. -/
def Readable : TypeCode A → Prop
  | .scalar _ => True
  | .app a => (AppTypes.read? a).isSome
  | .list t => t.Readable
  | .option t => t.Readable

end TypeCode

end EnvSettings
