import Roster.Text.Blank

namespace Roster

structure UserId where
  text : String
  text_nonblank : Text.blank text = false
  deriving DecidableEq, Repr

structure CircleId where
  text : String
  text_nonblank : Text.blank text = false
  deriving DecidableEq, Repr

def UserId.ofText? (s : String) : Option UserId :=
  if h : Text.blank s = false then some ⟨s, h⟩ else none

def CircleId.ofText? (s : String) : Option CircleId :=
  if h : Text.blank s = false then some ⟨s, h⟩ else none

theorem UserId.ofText?_text (id : UserId) : ofText? id.text = some id :=
  dif_pos id.text_nonblank

theorem UserId.ofText?_eq_some_iff {s : String} {id : UserId} :
    ofText? s = some id ↔ s = id.text := by
  constructor
  · intro h
    obtain ⟨_, he⟩ := Option.dite_none_right_eq_some.mp h
    exact congrArg text (Option.some.inj he)
  · rintro rfl
    exact ofText?_text id

theorem CircleId.ofText?_eq_some_iff {s : String} {id : CircleId} :
    ofText? s = some id ↔ s = id.text := by
  constructor
  · intro h
    obtain ⟨_, he⟩ := Option.dite_none_right_eq_some.mp h
    exact congrArg text (Option.some.inj he)
  · rintro rfl
    exact dif_pos id.text_nonblank

end Roster
