import Dialogue.Proofs.Run.Journal
import Dialogue.Proofs.Run.Twin

/-!
# Compiles before passive observers

A passive observer is heard about the settings once, when a compile begins. A bus is one,
whatever its handlers do (`Publisher.observer_isPassive`). If the settings are left as they
are at that moment, the compile is the one that nobody watches, notice for notice. And if they
are not, then only three of them count, for the limits and the first tag are taken before.
-/

namespace Dialogue

/-- The settings with the fields that a compile reads on its way taken from other settings. -/
def Config.hearing (config left : Config) : Config :=
  { config with
    indentThreshold := left.indentThreshold
    tagStem := left.tagStem
    flushAtEnd := left.flushAtEnd
    indentThreshold_pos := left.indentThreshold_pos
    tagStem_ne_empty := left.tagStem_ne_empty }

@[simp] theorem Config.hearing_self (config : Config) : config.hearing config = config := rfl

/-- What is taken when a compile begins does not depend on what is read later. -/
@[simp] theorem Session.start_hearing (config left : Config) :
    Session.start (config.hearing left) = Session.start config := rfl

namespace Run

variable {σ : Type} {observer : Observer σ}

/-- The same settings and the same journal, in the hands of an observer and of nobody. -/
def SameJournal (held : Config × σ × List Notice) (held' : Config × Unit × List Notice) : Prop :=
  held.1 = held'.1 ∧ held.2.2 = held'.2.2

theorem recording_agree_of_passive (passive : observer.IsPassive) :
    observer.recording.Agree Observer.silent.recording SameJournal where
  threshold := by
    intro held held' same
    rw [same.1]
  tagStem := by
    intro held held' same
    rw [same.1]
  told := by
    intro held held' notice later same
    constructor
    · exact (passive.keeps notice held.1 held.2.1 later).trans same.1
    · simp only [Observer.recording, same.2]

/-- A compile whose settings are left alone at its beginning has the session, the journal and the
graph of the compile that nobody watches. -/
theorem compile_of_passive (passive : observer.IsPassive) {config : Config} {state : σ}
    (kept : (start observer config state).config = config) {lines : List String}
    {alone : Run (Unit × List Notice)} {graph : Graph}
    (compiled : compile Observer.silent.recording config ((), []) lines = (alone, .ok graph)) :
    ∃ run, compile observer.recording config (state, []) lines = (run, .ok graph) ∧
      run.session = alone.session ∧ run.journal = alone.journal := by
  have begun : Twin SameJournal (start observer.recording config (state, []))
      (start Observer.silent.recording config ((), [])) := ⟨rfl, kept, rfl⟩
  have both := compile_twins (recording_agree_of_passive passive) (fun same => by rw [same.1])
    begun lines
  rw [compiled] at both
  exact ⟨_, Prod.ext rfl both.answer, both.twin.session, both.twin.alike.2⟩

/-! ## Settings left by the first event -/

/-- The settings that are read on the way are the same in the hands of an observer and of nobody. -/
def SameHearing (held : Config × σ) (held' : Config × Unit) : Prop :=
  held'.1 = held'.1.hearing held.1

theorem silent_agree_of_passive (passive : observer.IsPassive) :
    observer.Agree Observer.silent SameHearing where
  threshold := fun same => (congrArg Config.indentThreshold same).symm
  tagStem := fun same => (congrArg Config.tagStem same).symm
  told := by
    intro held held' notice later same
    rw [SameHearing, passive.keeps notice held.1 held.2 later]
    exact same

/-- Before a passive observer a compile has the graph and the counts of the compile that nobody
watches, under the settings in which the fields that are read on the way are as the observer
has left them at the beginning. -/
theorem compile_hearing (passive : observer.IsPassive) (config : Config) (state : σ)
    (lines : List String) :
    (compile observer config state lines).2 =
        (compile Observer.silent
          (config.hearing (start observer config state).config) () lines).2 ∧
      (compile observer config state lines).1.session =
        (compile Observer.silent
          (config.hearing (start observer config state).config) () lines).1.session := by
  have begun : Twin SameHearing (start observer config state)
      (start Observer.silent (config.hearing (start observer config state).config) ()) :=
    ⟨rfl, rfl⟩
  have both := compile_twins (silent_agree_of_passive passive)
    (fun same => (congrArg Config.flushAtEnd same).symm) begun lines
  exact ⟨both.answer, both.twin.session⟩

end Run

end Dialogue
