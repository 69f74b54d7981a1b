import RemoteFiles.Proofs.Client.Recording
import RemoteFiles.Proofs.Service.Files

/-!
# Stores and what passed

What passed between a client and a store says all about the store: `Store.after` replays the
requests and the probes of a log, and `Store.Answered` says that the log tells the answers that
the store gave.  A file that is there at the end is what was stored last under its path
(`lastStored?`) or, if nothing was, what was there at the beginning (`file?_after`).
-/

namespace RemoteFiles

namespace Interaction

/-- What the store is once this has passed. -/
def replay : Interaction → Store → Store
  | submitted r token _, s => (s.submit r token).2
  | probed token _, s => (s.probe token).2
  | _, s => s

/-- The answer that came is that of the store. -/
def AnsweredBy (s : Store) : Interaction → Prop
  | submitted r token outcome => (s.submit r token).1 = outcome
  | probed token answer => (s.probe token).1 = answer
  | _ => True

/-- The content that was stored at a path. -/
def stored? (path : String) : Interaction → Option ByteArray
  | submitted r _ (.ok _) => Store.stored? path r
  | _ => none

end Interaction

/-- The content that was stored last at a path. -/
def lastStored? (path : String) : List Interaction → Option ByteArray
  | [] => none
  | i :: log => (lastStored? path log).or (i.stored? path)

namespace Store

/-- What a store is once a log has passed. -/
def after (s : Store) : List Interaction → Store
  | [] => s
  | i :: log => (i.replay s).after log

/-- The answers of a log are those of the store. -/
def Answered (s : Store) : List Interaction → Prop
  | [] => True
  | i :: log => i.AnsweredBy s ∧ (i.replay s).Answered log

theorem after_append (s : Store) (log log' : List Interaction) :
    s.after (log ++ log') = (s.after log).after log' := by
  induction log generalizing s with
  | nil => rfl
  | cons i log ih => exact ih (i.replay s)

theorem answered_append (s : Store) (log log' : List Interaction) :
    s.Answered (log ++ log') ↔ s.Answered log ∧ (s.after log).Answered log' := by
  induction log generalizing s with
  | nil => exact (and_iff_right trivial).symm
  | cons i log ih =>
    show i.AnsweredBy s ∧ (i.replay s).Answered (log ++ log') ↔ _
    rw [ih]
    exact and_assoc.symm

/-- A request of a log was answered by the store as it was then. -/
theorem submit_of_answered {s : Store} {log rest : List Interaction} {r : Request}
    {token : Option String} {outcome : Outcome}
    (h : s.Answered (log ++ .submitted r token outcome :: rest)) :
    (s.after log).submit r token =
      (outcome, s.after (log ++ [.submitted r token outcome])) := by
  rw [answered_append] at h
  obtain ⟨-, hanswer, -⟩ := h
  rw [after_append]
  exact Prod.ext hanswer rfl

/-- A file that is there once something has passed was stored then, or was there before. -/
theorem file?_replay {s : Store} {i : Interaction} {path : String} {data : ByteArray}
    (hi : i.AnsweredBy s) (hdata : (i.replay s).file? path = some data) :
    (i.stored? path).or (s.file? path) = some data := by
  cases i with
  | submitted r token outcome =>
    have hsubmit : s.submit r token = (outcome, (s.submit r token).2) := Prod.ext hi rfl
    cases outcome with
    | ok body => exact file?_of_accepted hsubmit hdata
    | error refusal =>
      have hsame := file?_of_refused hsubmit path
      exact hsame.symm.trans hdata
  | probed token answer => exact (file?_of_probe s token path).symm.trans hdata
  | announced | drew | fetched => exact hdata

theorem file?_after {s : Store} {log : List Interaction} {path : String} {data : ByteArray}
    (hlog : s.Answered log) (hdata : (s.after log).file? path = some data) :
    (lastStored? path log).or (s.file? path) = some data := by
  induction log generalizing s with
  | nil => exact hdata
  | cons i log ih =>
    obtain ⟨hi, hrest⟩ := hlog
    have hlast := ih hrest hdata
    rw [lastStored?]
    cases hstored : lastStored? path log with
    | some stored =>
      rw [hstored] at hlast
      exact hlast
    | none =>
      rw [hstored] at hlast
      exact file?_replay hi hlast

/-- A file that was read once, if it is there later, has the content that was stored last since
then or, if nothing was, the content that was read. -/
theorem file?_after_read {s : Store} {log since : List Interaction} {path : String}
    {token : Option String} {content : Payload} {data : ByteArray}
    (hlog : s.Answered (log ++ .submitted (.read path) token (.ok content) :: since))
    (hdata : (s.after (log ++ .submitted (.read path) token (.ok content) :: since)).file? path =
      some data) :
    data = (lastStored? path since).getD content.data := by
  have hread := submit_of_answered hlog
  rw [List.append_cons] at hlog hdata
  rw [answered_append] at hlog
  rw [after_append] at hdata
  have hlast := file?_after hlog.2 hdata
  cases hstored : lastStored? path since with
  | some stored =>
    rw [hstored] at hlast
    exact (Option.some.inj hlast).symm
  | none =>
    -- nothing was stored, and what is there now was there when it was read
    rw [hstored, Option.none_or, file?_of_read hread] at hlast
    exact (data_of_read hread hlast).symm

/-- The delete of a file takes it away and nothing else. -/
theorem file?_after_delete {s : Store} {log rest : List Interaction} {source : String}
    {token : Option String} {receipt : Payload} {data : ByteArray}
    (hlog : s.Answered (log ++ .submitted (.delete source) token (.ok receipt) :: rest))
    (hdata : (s.after log).file? source = some data) (path : String) :
    (s.after (log ++ [.submitted (.delete source) token (.ok receipt)])).file? path =
      if path = source then none else (s.after log).file? path := by
  have htakes : (s.after log).takes source path = (path == source) := by
    rw [takes, hdata]
    rfl
  rw [file?_of_delete (submit_of_answered hlog), htakes]
  by_cases hpath : path = source
  · rw [if_pos hpath, beq_iff_eq.mpr hpath, if_pos rfl]
  · rw [if_neg hpath, beq_false_of_ne hpath, if_neg (by simp)]

end Store

end RemoteFiles
