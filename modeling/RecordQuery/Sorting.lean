import RecordQuery.Path

/-!
# Sorting rows

Order clauses compare rows by the values under a path, the first clause that
tells two rows apart deciding. Rows that no clause tells apart keep their order.

How rows are sorted is left to a sorter, of which only a contract is known: rows
that are compared consistently are sorted stably. Otherwise the sorter is free to
answer in any order, and also not to answer.
-/

namespace RecordQuery

/-- Ascending or descending. -/
inductive Direction where
  | ascending
  | descending
  deriving DecidableEq

namespace Direction

/-- The written form of a direction. -/
def name : Direction → String
  | ascending => "asc"
  | descending => "desc"

/-- Turn an ordering around when descending. -/
def apply : Direction → Ordering → Ordering
  | ascending, ordering => ordering
  | descending, ordering => ordering.swap

end Direction

/-- Sort by the values under a path. -/
structure OrderClause where
  field : Path
  direction : Direction
  deriving DecidableEq

/-- Compare two rows by one clause. -/
def OrderClause.compareRows (clause : OrderClause) (left right : Record) : Ordering :=
  clause.direction.apply <|
    (clause.field.resolve left).sortKey.compareKeys (clause.field.resolve right).sortKey

/-- Compare two rows by all clauses. -/
def compareRows : List OrderClause → Record → Record → Ordering
  | [], _, _ => .eq
  | clause :: rest, left, right =>
      (clause.compareRows left right).then (compareRows rest left right)

namespace Sorting

variable {α : Type}

/-- Put an element into elements placed so far, the last one first: it moves
past those that it must precede. -/
def place (precedes : α → α → Bool) (element : α) : List α → List α
  | [] => [element]
  | last :: placed =>
      if precedes element last then last :: place precedes element placed
      else element :: last :: placed

/-- Stable sorting: elements are placed in their order, each one after those
that it need not precede. -/
def sortBy (precedes : α → α → Bool) (elements : List α) : List α :=
  (elements.foldl (fun placed element => place precedes element placed) []).reverse

/-- Placing an element adds it and nothing else. -/
theorem place_perm (precedes : α → α → Bool) (element : α) (placed : List α) :
    (place precedes element placed).Perm (element :: placed) := by
  induction placed with
  | nil => exact .refl _
  | cons last placed ih =>
      rw [place]
      split
      · exact (ih.cons last).trans (.swap element last placed)
      · exact .refl _

/-- Sorting keeps exactly the elements that there are. -/
theorem sortBy_perm (precedes : α → α → Bool) (elements : List α) :
    (sortBy precedes elements).Perm elements := by
  have grown : ∀ (rest placed : List α),
      (rest.foldl (fun placed element => place precedes element placed) placed).Perm
        (rest ++ placed) := by
    intro rest
    induction rest with
    | nil => exact fun placed => .refl _
    | cons element rest ih =>
        intro placed
        have moved : (rest ++ place precedes element placed).Perm (element :: rest ++ placed) :=
          ((place_perm precedes element placed).append_left rest).trans List.perm_middle
        exact (ih _).trans moved
  exact (List.reverse_perm _).trans (by simpa using grown elements [])

/-- Among certain elements, to precede is a strict order in which not to precede
is transitive, so that elements of which neither precedes the other tie. -/
structure Consistent (precedes : α → α → Bool) (among : α → Prop) : Prop where
  asymm : ∀ {left right : α}, among left → among right → precedes left right →
    ¬precedes right left
  trans : ∀ {first second third : α}, among first → among second → among third →
    ¬precedes second first → ¬precedes third second → ¬precedes third first

end Sorting

/-- A way to sort rows, which may give up. What it answers with are the rows that
it was given. Rows among which the comparison is consistent it sorts stably; of
others nothing more is known, neither their order nor whether there is an answer. -/
structure Sorter where
  sort? : (Record → Record → Bool) → List Record → Option (List Record)
  perm : ∀ {precedes : Record → Record → Bool} {rows sorted : List Record},
    sort? precedes rows = some sorted → sorted.Perm rows
  stable : ∀ {precedes : Record → Record → Bool} {rows : List Record},
    Sorting.Consistent precedes (· ∈ rows) →
      sort? precedes rows = some (Sorting.sortBy precedes rows)

/-- The sorter that places row after row. It never gives up. -/
def Sorter.placing : Sorter where
  sort? := fun precedes rows => some (Sorting.sortBy precedes rows)
  perm := by
    intro precedes rows sorted answered
    cases answered
    exact Sorting.sortBy_perm precedes rows
  stable := fun _ => rfl

/-- Whether a row comes before another one by the clauses. -/
def rowPrecedes (clauses : List OrderClause) (left right : Record) : Bool :=
  compareRows clauses left right == .lt

/-- Rows in the order of the clauses. Where the sorter gives up there is no such
list, and the rows as they are stand in for it. -/
def sortRows (sorter : Sorter) (clauses : List OrderClause) (rows : List Record) : List Record :=
  (sorter.sort? (rowPrecedes clauses) rows).getD rows

/-- Sorting keeps exactly the rows that there are. -/
theorem sortRows_perm (sorter : Sorter) (clauses : List OrderClause) (rows : List Record) :
    (sortRows sorter clauses rows).Perm rows := by
  rw [sortRows]
  cases answered : sorter.sort? (rowPrecedes clauses) rows with
  | none => exact .refl _
  | some sorted => exact sorter.perm answered

/-- Rows that are compared consistently are sorted by placing, whatever the sorter. -/
theorem sortRows_of_consistent (sorter : Sorter) {clauses : List OrderClause} {rows : List Record}
    (consistent : Sorting.Consistent (rowPrecedes clauses) (· ∈ rows)) :
    sortRows sorter clauses rows = Sorting.sortBy (rowPrecedes clauses) rows := by
  rw [sortRows, sorter.stable consistent, Option.getD_some]

end RecordQuery
