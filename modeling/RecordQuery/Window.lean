import RecordQuery.Error

/-!
# Windows

Which stretch of a result is returned: all of it, a numbered page, or a number
of rows after some that are skipped. Positions are 64-bit words, and a page
offset that does not fit stays at the largest one.
-/

namespace RecordQuery

/-- The largest position, which is also the largest count. -/
def maxPosition : Nat := 0xFFFFFFFFFFFFFFFF

/-- A page of a given size. Pages are numbered from 1. -/
structure Page where
  number : Nat
  size : Nat
  deriving DecidableEq

namespace Page

/-- A page, where number 0 is read as the first page. Pages without rows are
refused. -/
def make (number size : Nat) : Except Error Page :=
  if size = 0 then .error .emptyPages else .ok ⟨max number 1, size⟩

/-- The number of rows before the page. -/
def offset (page : Page) : Nat := min ((page.number - 1) * page.size) maxPosition

end Page

/-- A stretch of a result. -/
inductive Window where
  | all
  | page (page : Page)
  | range (skip : Nat) (limit : Option Nat)
  deriving DecidableEq

namespace Window

/-- The number of rows before the window. -/
def offset : Window → Nat
  | all => 0
  | page numbered => numbered.offset
  | range skip _ => skip

/-- The largest number of rows in the window, if there is one. -/
def limit? : Window → Option Nat
  | all => none
  | page numbered => some numbered.size
  | range _ limit => limit

/-- The rows in the window. -/
def apply {α : Type} (window : Window) (rows : List α) : List α :=
  match window.limit? with
  | some limit => (rows.drop window.offset).take limit
  | none => rows.drop window.offset

/-- The window that holds at most the first row of another one. -/
def firstRow (window : Window) : Window :=
  .range window.offset (some (window.limit?.elim 1 (min · 1)))

end Window

/-- What a page says about the whole result. -/
structure PageSummary where
  number : Nat
  size : Nat
  totalPages : Nat
  deriving DecidableEq

/-- The summary of a page of a result with `total` rows. The last page may be
partly filled. -/
def PageSummary.of (page : Page) (total : Nat) : PageSummary :=
  ⟨page.number, page.size, (total + page.size - 1) / page.size⟩

/-- The rows of a window, the number of all rows, and the page summary when the
window is a page. -/
structure QueryResult (α : Type) where
  data : List α
  total : Nat
  pagination : Option PageSummary
  deriving DecidableEq

namespace QueryResult

variable {α β : Type}

/-- The result for rows already cut to a window. -/
def of (data : List α) (total : Nat) (window : Window) : QueryResult α :=
  ⟨data, total,
    match window with
    | .page page => some (.of page total)
    | _ => none⟩

end QueryResult

end RecordQuery
