/-!
# Document values

What a document holds once it has been read, and what is handed to a printer: nothing, truth
values, whole numbers, text, lists, and tables whose entries keep their order.  There are no
fractions, because no document of this library has one.
-/

namespace Converge

/-- The content of a document.  A table keeps its entries in the order in which they are written. -/
inductive Value where
  | null
  | bool (b : Bool)
  | int (n : Int)
  | text (s : String)
  | list (items : List Value)
  | table (entries : List (String × Value))
  deriving Inhabited, Repr

namespace Value

/-- A list of texts. -/
def texts (items : List String) : Value := .list (items.map .text)

/-- A value that may be missing, written as nothing when it is. -/
def ofOption (f : α → Value) : Option α → Value
  | none => .null
  | some a => f a

end Value

end Converge
