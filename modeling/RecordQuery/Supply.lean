/-!
# Supplies of ids and times

Fresh ids and the current time are not computed but drawn. A supply says what
each draw yields and how many draws have been made, so that a run of commands
is a function of its supply.
-/

namespace RecordQuery

/-- The texts that successive draws yield, and the number of draws so far. -/
structure Supply where
  idAt : Nat → String
  timeAt : Nat → String
  idsDrawn : Nat := 0
  timesDrawn : Nat := 0

namespace Supply

/-- The next unique text. -/
def id (supply : Supply) : String := supply.idAt supply.idsDrawn

/-- The next point in time. -/
def time (supply : Supply) : String := supply.timeAt supply.timesDrawn

/-- The supply after drawing a unique text. -/
def afterId (supply : Supply) : Supply := { supply with idsDrawn := supply.idsDrawn + 1 }

/-- The supply after drawing a time. -/
def afterTime (supply : Supply) : Supply := { supply with timesDrawn := supply.timesDrawn + 1 }

@[simp] theorem time_afterId (supply : Supply) : supply.afterId.time = supply.time := rfl

@[simp] theorem id_afterTime (supply : Supply) : supply.afterTime.id = supply.id := rfl

end Supply

end RecordQuery
