import Duplex.Proofs.Session.Nesting

/-!
Woven runs. Where several threads work on one session, each has an agenda of its own; taken together
they are one agenda whose order says nothing, and every step is that of a frame brought to the top.
-/

namespace Duplex.Machine

inductive Woven : Machine → List Happening → Machine → Prop
  | nil (m : Machine) : Woven m [] m
  | snoc {m n k : Machine} {agenda : Agenda} {hs : List Happening} {h : Happening}
    (run : Woven m hs n) (mixed : n.agenda.Perm agenda) (step : Step ⟨n.session, agenda⟩ h k) :
    Woven m (hs ++ [h]) k

variable {s : Session} {hs : List Happening} {m n : Machine}

theorem Run.woven (run : Run m hs n) : Woven m hs n := by
  induction run with
  | nil => exact .nil _
  | snoc run step ih => exact ih.snoc (.refl _) step

section

variable {α : Type} {due : Frame → Option α} {paid raised : Happening → Option α}

theorem perm_beside {a b c d : List α} (moved : (a ++ b).Perm (c ++ d)) (rest : List α) :
    (a ++ (b ++ rest)).Perm (c ++ rest ++ d) :=
  calc a ++ (b ++ rest)
    _ = (a ++ b) ++ rest := (List.append_assoc ..).symm
    List.Perm _ (c ++ d ++ rest) := moved.append_right rest
    _ = c ++ (d ++ rest) := List.append_assoc ..
    List.Perm _ (c ++ (rest ++ d)) := List.perm_append_comm.append_left c
    _ = c ++ rest ++ d := (List.append_assoc ..).symm

theorem Woven.settles
    (opens : ∀ h op, h.op? = some op →
      ((paid h).toList ++ (op.actions.map Frame.act).filterMap due).Perm (raised h).toList)
    (acts : ∀ s a, ((paid (.acted s a)).toList ++ (a.perform s).next.filterMap due).Perm
      ((due (.act a)).toList ++ (raised (.acted s a)).toList))
    (hears : ∀ w a, ((paid (.answered w a)).toList ++
      ((w.resume a).map Frame.act).filterMap due).Perm
      ((due (.wait w)).toList ++ (raised (.answered w a)).toList))
    (run : Woven ⟨s, []⟩ hs n) :
    (hs.filterMap paid ++ n.agenda.filterMap due).Perm (hs.filterMap raised) := by
  induction run with
  | nil => exact .nil
  | snoc run mixed step ih =>
    rename_i n k agenda hs h
    have moved : ((paid h).toList ++ k.agenda.filterMap due).Perm
        (agenda.filterMap due ++ (raised h).toList) := by
      cases step using Step.kinds with
      | began _ op | intruded _ op =>
        rw [start, List.filterMap_append]
        exact perm_beside (c := []) (opens _ op rfl) _
      | acted t a rest =>
        rw [List.filterMap_append, filterMap_cons_toList]
        exact perm_beside (acts _ a) _
      | answered t w rest a =>
        rw [List.filterMap_append, filterMap_cons_toList]
        exact perm_beside (hears w a) _
    have before : (hs.filterMap paid ++ agenda.filterMap due).Perm (hs.filterMap raised) :=
      ((mixed.filterMap due).symm.append_left _).trans ih
    rw [filterMap_snoc, filterMap_snoc, List.append_assoc]
    apply (moved.append_left _).trans
    rw [← List.append_assoc]
    exact before.append_right _

end

end Duplex.Machine
