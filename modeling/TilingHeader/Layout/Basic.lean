namespace TilingHeader

/-! Packed structs and the pieces that a header is made of.  The order of the
members is the order in memory. -/

inductive Member where
  /-- Starts at zero. -/
  | scalar (type name : String)
  /-- The length is an expression, kept as it is written. -/
  | array (type length name : String)
  /-- Its own type says how it starts. -/
  | nested (type name : String)
  deriving DecidableEq, Repr

namespace Member

def name : Member → String
  | .scalar _ name => name
  | .array _ _ name => name
  | .nested _ name => name

def type : Member → String
  | .scalar type _ => type
  | .array type _ _ => type
  | .nested type _ => type

end Member

structure PackedStruct where
  name : String
  packAlignment : Nat
  members : List Member
  deriving DecidableEq, Repr

/-- A piece of a header.  A well formed description gives only `whole` ones; the
others are what is left of one whose nesting is broken. -/
inductive Fragment where
  | whole (body : PackedStruct)
  | unclosed (body : PackedStruct)
  | loose (member : Member)
  | strayClosing
  deriving DecidableEq, Repr

/-- What a directive does to the struct that is being defined. -/
inductive Event where
  | opening (name : String)
  | member (member : Member)
  | closing
  deriving DecidableEq, Repr

namespace Fragment

def events : Fragment → List Event
  | .whole body =>
      .opening body.name :: body.members.map .member ++ [.closing]
  | .unclosed body => .opening body.name :: body.members.map .member
  | .loose member => [.member member]
  | .strayClosing => [.closing]

end Fragment

end TilingHeader
