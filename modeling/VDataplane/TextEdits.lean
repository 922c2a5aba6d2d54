import Mathlib

namespace VDataplane.TextEdits

/-!
# Edits of a text of bounded length

A text is a list of cells, at most as many as there is room for.  A cell is
known to hold an item, or nothing is known about it: an insertion only makes
room.  Edits that do not fit are refused and change nothing.

A text shows a list of items when every known cell holds the item at its place.
-/

variable {Item : Type*}

/-- One edit; places and lengths are counted in cells. -/
inductive Edit (Item : Type*) where
  | insert (offset count : Nat)
  | remove (offset count : Nat)
  | keepFirst (count : Nat)
  | overwrite (offset : Nat) (items : List Item)

/-- The text after an edit, unless the edit is refused. -/
def edit?
    (capacity : Nat)
    (cells : List (Option Item)) :
    Edit Item → Option (List (Option Item))
  | .insert offset count =>
      if count = 0 ∨ cells.length < offset ∨
          capacity < cells.length + count then
        none
      else
        some (cells.take offset ++ List.replicate count none ++
          cells.drop offset)
  | .remove offset count =>
      if count = 0 ∨ cells.length < offset + count then
        none
      else
        some (cells.take offset ++ cells.drop (offset + count))
  | .keepFirst count =>
      if cells.length ≤ count then
        none
      else
        some (cells.take count)
  | .overwrite offset items =>
      if cells.length < offset + items.length then
        none
      else
        some (cells.take offset ++ items.map some ++
          cells.drop (offset + items.length))

/-- Every known cell holds the item at its place. -/
def Shows
    (cells : List (Option Item))
    (items : List Item) :
    Prop :=
  List.Forall₂ (fun cell item => ∀ known, cell = some known → item = known)
    cells items

namespace Shows

variable
  {cells otherCells : List (Option Item)}
  {items otherItems : List Item}

/-- A text is as long as what it shows. -/
theorem length_eq (shows : Shows cells items) :
    cells.length = items.length :=
  List.Forall₂.length_eq shows

theorem take
    (shows : Shows cells items)
    (count : Nat) :
    Shows (cells.take count) (items.take count) :=
  List.forall₂_take count shows

theorem drop
    (shows : Shows cells items)
    (count : Nat) :
    Shows (cells.drop count) (items.drop count) :=
  List.forall₂_drop count shows

theorem append
    (shows : Shows cells items)
    (alsoShows : Shows otherCells otherItems) :
    Shows (cells ++ otherCells) (items ++ otherItems) :=
  List.rel_append shows alsoShows

end Shows

end VDataplane.TextEdits
