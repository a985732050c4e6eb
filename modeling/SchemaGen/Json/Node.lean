import SchemaGen.Json.Token

/-!
# Values as they are read

The value of a JSON text is a tree.  A text with a fault has a tree as well: it goes as far as
the fault, and the place of the fault is marked.  So what a reader wants of a value can be said
on trees, and the fault that it meets first is still the first in the text.

* `Node`: the tree, with `Node.skip` for a value that nobody wants.
* `State.feed`: takes one more token; `State.finish`: takes the end of the text.
* `Node.ofText`: the tree of a text, and whether anything follows it.

The tree is built token by token.  A `Place` remembers what surrounds the value that comes next,
from the inside out, so no recursion goes as deep as the nesting of the text.
-/

namespace SchemaGen.Json

/-- How a list ends. -/
inductive ListEnd where
  | closed
  | endOfInput
  /-- Something other than a comma follows an item. -/
  | noComma
  /-- The list is closed behind a comma. -/
  | trailingComma
  deriving DecidableEq, Repr

/-- How an object ends. -/
inductive ObjectEnd where
  | closed
  | endOfInput
  | endAfterComma
  /-- Something other than a comma follows a member. -/
  | noComma
  /-- The object is closed behind a comma. -/
  | trailingComma
  /-- Something other than a text stands where a key has to. -/
  | noKey
  /-- A key is broken. -/
  | brokenKey (key : Literal)
  deriving DecidableEq, Repr

/-- A value as it is read. -/
inductive Node where
  | null
  | bool (b : Bool)
  | number (n : Numeral)
  | brokenNumber (f : NumeralFault)
  | text (l : Literal)
  | list (items : List Node) (stop : ListEnd)
  | object (members : List (Literal × Node)) (stop : ObjectEnd)
  /-- No value can be read here. -/
  | broken (e : Error)

/-! ## Skipping -/

/-- The fault at the end of a list that is skipped. -/
def ListEnd.skip : ListEnd → Except Error Unit
  | .closed => .ok ()
  | .endOfInput => .error .endInList
  | .noComma => .error .expectedListComma
  | .trailingComma => .error .expectedValue

/-- The fault at the end of an object that is skipped. -/
def ObjectEnd.skip : ObjectEnd → Except Error Unit
  | .closed => .ok ()
  | .endOfInput | .endAfterComma => .error .endInObject
  | .noComma => .error .expectedObjectComma
  | .trailingComma | .noKey => .error .keyNotText
  | .brokenKey key => key.skip

mutual

/-- Whether a value can be skipped: it has to be well formed, but its numbers may have any size
and its texts may have code units without a partner. -/
def Node.skip : Node → Except Error Unit
  | .null | .bool _ | .number _ => .ok ()
  | .brokenNumber _ => .error .invalidNumber
  | .text l => l.skip
  | .list items stop => do
    skipItems items
    stop.skip
  | .object members stop => do
    skipMembers members
    stop.skip
  | .broken e => .error e

/-- Whether the items of a list can be skipped. -/
def skipItems : List Node → Except Error Unit
  | [] => .ok ()
  | item :: items => do
    item.skip
    skipItems items

/-- Whether the members of an object can be skipped. -/
def skipMembers : List (Literal × Node) → Except Error Unit
  | [] => .ok ()
  | (key, value) :: members => do
    key.skip
    value.skip
    skipMembers members

end

/-! ## Building -/

/-- Where the value that comes next belongs.  What stands before it is in reverse order. -/
inductive Place where
  /-- Nothing surrounds it. -/
  | top
  /-- An item of a list. -/
  | item (before : List Node) (outer : Place)
  /-- The value of a key in an object. -/
  | member (before : List (Literal × Node)) (key : Literal) (outer : Place)

/-- What has been read, and so what may come next. -/
inductive State where
  /-- A value comes next. -/
  | value (place : Place)
  /-- A list has been opened. -/
  | firstItem (place : Place)
  /-- An item has been read. -/
  | afterItem (items : List Node) (place : Place)
  /-- A comma has been read after an item. -/
  | nextItem (items : List Node) (place : Place)
  /-- An object has been opened. -/
  | firstKey (place : Place)
  /-- A key has been read. -/
  | afterKey (members : List (Literal × Node)) (key : Literal) (place : Place)
  /-- A member has been read. -/
  | afterMember (members : List (Literal × Node)) (place : Place)
  /-- A comma has been read after a member. -/
  | nextKey (members : List (Literal × Node)) (place : Place)
  /-- The value is complete, or broken; `surplus` tells whether more has been read. -/
  | complete (node : Node) (surplus : Bool)

namespace Place

/-- Puts a whole value into its place. -/
def fill : Place → Node → State
  | .top, n => .complete n false
  | .item before outer, n => .afterItem (n :: before) outer
  | .member before key outer, n => .afterMember ((key, n) :: before) outer

/-- The whole tree if a broken value is put into this place. -/
def treeOf : Place → Node → Node
  | .top, n => n
  | .item before outer, n => outer.treeOf (.list (n :: before).reverse .endOfInput)
  | .member before key outer, n => outer.treeOf (.object ((key, n) :: before).reverse .endOfInput)

/-- Puts a broken value into its place: nothing can be read after it. -/
def breakOff (p : Place) (n : Node) : State :=
  .complete (p.treeOf n) false

/-- Begins the value of this place with a token. -/
def start (p : Place) : Token → State
  | .openObject => .firstKey p
  | .openList => .firstItem p
  | .null => p.fill .null
  | .bool b => p.fill (.bool b)
  | .brokenWord e => p.breakOff (.broken e)
  | .number n => p.fill (.number n)
  | .brokenNumber f => p.breakOff (.brokenNumber f)
  | .text l => if l.stop = .closed then p.fill (.text l) else p.breakOff (.text l)
  | .closeObject | .closeList | .colon | .comma | .other => p.breakOff (.broken .expectedValue)

/-- Begins a member with the token of its key. -/
def startMember (p : Place) (members : List (Literal × Node)) : Token → State
  | .text l =>
    if l.stop = .closed then .afterKey members l p
    else p.breakOff (.object members.reverse (.brokenKey l))
  | _ => p.breakOff (.object members.reverse .noKey)

end Place

namespace State

/-- Takes one more token. -/
def feed : State → Token → State
  | .value p, t => p.start t
  | .firstItem p, .closeList => p.fill (.list [] .closed)
  | .firstItem p, t => (Place.item [] p).start t
  | .afterItem items p, .comma => .nextItem items p
  | .afterItem items p, .closeList => p.fill (.list items.reverse .closed)
  | .afterItem items p, _ => p.breakOff (.list items.reverse .noComma)
  | .nextItem items p, .closeList => p.breakOff (.list items.reverse .trailingComma)
  | .nextItem items p, t => (Place.item items p).start t
  | .firstKey p, .closeObject => p.fill (.object [] .closed)
  | .firstKey p, t => p.startMember [] t
  | .afterKey members key p, .colon => .value (.member members key p)
  | .afterKey members key p, _ => (Place.member members key p).breakOff (.broken .expectedColon)
  | .afterMember members p, .comma => .nextKey members p
  | .afterMember members p, .closeObject => p.fill (.object members.reverse .closed)
  | .afterMember members p, _ => p.breakOff (.object members.reverse .noComma)
  | .nextKey members p, .closeObject => p.breakOff (.object members.reverse .trailingComma)
  | .nextKey members p, t => p.startMember members t
  | .complete n _, _ => .complete n true

/-- Takes the end of the text. -/
def finish : State → Node × Bool
  | .value p => (p.treeOf (.broken .endInValue), false)
  | .firstItem p => (p.treeOf (.list [] .endOfInput), false)
  | .afterItem items p => (p.treeOf (.list items.reverse .endOfInput), false)
  | .nextItem items p => ((Place.item items p).treeOf (.broken .endInValue), false)
  | .firstKey p => (p.treeOf (.object [] .endOfInput), false)
  | .afterKey members key p => ((Place.member members key p).treeOf (.broken .endInObject), false)
  | .afterMember members p => (p.treeOf (.object members.reverse .endOfInput), false)
  | .nextKey members p => (p.treeOf (.object members.reverse .endAfterComma), false)
  | .complete n surplus => (n, surplus)

end State

/-- The tree of a text, and whether anything follows it. -/
def Node.ofText (text : String) : Node × Bool :=
  ((tokens text.toList).foldl State.feed (.value .top)).finish

end SchemaGen.Json
