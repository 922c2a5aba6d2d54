import VDataplane.BoundedFifo
import VDataplane.PartialMap

namespace VDataplane.Switchboard

/-!
# Switchboards

A switchboard connects a hub with any number of peers, each of them over a line
of its own: two bounded queues, one in each direction.  Requests come from the
hub and from the peers; a request about one peer reads and changes the line of
that peer only.
-/

variable {Key Item : Type*}

/-- The two queues between the hub and one peer. -/
structure Line (Item : Type*) where
  down : BoundedFifo Item
  up : BoundedFifo Item

/-- The lines of the peers that have one. -/
abbrev Board (Key Item : Type*) :=
  PartialMap Key (Line Item)

/-- A request, with what the surroundings grant. -/
inductive Request (Key Item : Type*) where
  | openLine (key : Key) (granted : Bool)
  | closeLine (key : Key)
  | ask (key : Key)
  | offerDown (key : Key) (item : Item)
  | offerUp (key : Key) (item : Item)
  | takeDown (key : Key)
  | takeUp (key : Key)
  | takeUpTo (key : Key) (count : Nat)

/-- What a request shows. -/
inductive Reply where
  | noLine
  | done
  | refused
  | count (number : Nat)
  deriving Repr, DecidableEq

/-- A line on which nothing has been sent. -/
def Line.fresh (capacity : Nat) : Line Item where
  down :=
    .empty capacity
  up :=
    .empty capacity

/-- Append an item to a queue, unless it is full. -/
def offer
    (queue : BoundedFifo Item)
    (item : Item) :
    Reply × BoundedFifo Item :=
  match queue.push? item with
  | none =>
      (.refused, queue)
  | some pushed =>
      (.done, pushed)

/-- Remove the oldest item of a queue, unless it is empty. -/
def take (queue : BoundedFifo Item) : Reply × BoundedFifo Item :=
  match queue.pop? with
  | none =>
      (.refused, queue)
  | some (_, popped) =>
      (.done, popped)

/-- Use the line of a peer, if it has one. -/
def useLine
    [DecidableEq Key]
    (board : Board Key Item)
    (key : Key)
    (use : Line Item → Reply × Line Item) :
    Reply × Board Key Item :=
  match board key with
  | none =>
      (.noLine, board)
  | some line =>
      ((use line).1, board.insert key (use line).2)

/-- Answer a request; lines are opened with queues of one capacity. -/
def serve
    [DecidableEq Key]
    (capacity : Nat)
    (board : Board Key Item) :
    Request Key Item → Reply × Board Key Item
  | .openLine key granted =>
      if granted ∧ board key = none then
        (.done, board.insert key (.fresh capacity))
      else
        (.refused, board)
  | .closeLine key =>
      (.done, board.erase key)
  | .ask key =>
      useLine board key fun line => (.count 0, line)
  | .offerDown key item =>
      useLine board key fun line =>
        ((offer line.down item).1, { line with down := (offer line.down item).2 })
  | .offerUp key item =>
      useLine board key fun line =>
        ((offer line.up item).1, { line with up := (offer line.up item).2 })
  | .takeDown key =>
      useLine board key fun line =>
        ((take line.down).1, { line with down := (take line.down).2 })
  | .takeUp key =>
      useLine board key fun line =>
        ((take line.up).1, { line with up := (take line.up).2 })
  | .takeUpTo key count =>
      useLine board key fun line =>
        (.count (min count line.up.entries.length),
          { line with up := line.up.drop count })

/-- The reply to a request. -/
def answer
    [DecidableEq Key]
    (capacity : Nat)
    (board : Board Key Item)
    (request : Request Key Item) :
    Reply :=
  (serve capacity board request).1

/-- The board after a request. -/
def next
    [DecidableEq Key]
    (capacity : Nat)
    (board : Board Key Item)
    (request : Request Key Item) :
    Board Key Item :=
  (serve capacity board request).2

end VDataplane.Switchboard
