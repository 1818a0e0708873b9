/-
# What the replay windows of the data plane have accepted

A session's window accepts a packet number at most once.  The data plane keeps the window of
a session for as long as it keeps the session, so over a run in which no session is forgotten
the numbers delivered for a session are all different.
-/
import Gemina.Gateway.Steps

namespace Gemina

namespace ReplayWindow

variable {w : ReplayWindow} {ns : List PacketNumber} {n : PacketNumber}

/-- The numbers that the window has accepted are `ns`, in this order. -/
def HasAccepted (w : ReplayWindow) (ns : List PacketNumber) : Prop :=
  ∃ W h, Tracks W h w ∧ accepted h = ns

lemma hasAccepted_new {width : ℤ} (h : newReplayWindow width = .ok w) : w.HasAccepted [] :=
  ⟨w.width, [], (newReplayWindow_isFresh h).tracks, rfl⟩

/-- A number that is accepted was not accepted before. -/
lemma HasAccepted.firstCopy (hw : w.HasAccepted ns) (hn : (w.observe n).1 = .firstCopy) :
    n ∉ ns ∧ (w.observe n).2.HasAccepted (ns ++ [n]) := by
  obtain ⟨W, h, ht, rfl⟩ := hw
  obtain ⟨hspec, ht'⟩ := ht.observe n
  rw [hn] at ht'
  refine ⟨?_, W, _, ht', by simp [accepted]⟩
  rw [mem_accepted]
  exact not_mem_of_spec_firstCopy (hspec.symm.trans hn)

lemma HasAccepted.other (hw : w.HasAccepted ns) (hn : (w.observe n).1 ≠ .firstCopy) :
    (w.observe n).2.HasAccepted ns := by
  obtain ⟨W, h, ht, rfl⟩ := hw
  refine ⟨W, _, (ht.observe n).2, ?_⟩
  simp [accepted, hn]

/-- The first number that a new window is shown is accepted. -/
lemma observe_new {width : ℤ} (h : newReplayWindow width = .ok w) (hn : n ≠ 0) :
    (w.observe n).1 = .firstCopy := by
  have ht := (newReplayWindow_isFresh h).tracks
  rw [(ht.observe n).1]
  exact spec_firstCopy_of_new hn (by simp) (by simpa [highest] using ht.W_pos)

end ReplayWindow

namespace DataPlane

variable {resolver : KeyResolver} {d d' : DataPlane} {id : SessionID} {s : Session}

/-! ## What is known about the sessions

A fact about each session relates it to what happened to it so far.  A session that is not
kept was not built yet, and nothing happened to it. -/

section Known

variable {α : Type} {P : Session → α → Prop} {init : α} {x : SessionID → α}

/-- Every session that is kept has its fact, and to the others nothing happened. -/
structure Known (P : Session → α → Prop) (init : α) (x : SessionID → α) (d : DataPlane) :
    Prop where
  kept : ∀ id s, d.sessions id = some s → P s (x id)
  unbuilt : ∀ id, d.sessions id = none → x id = init

/-- The fact holds of every new session. -/
def HoldsOfNew (P : Session → α → Prop) (init : α) : Prop :=
  ∀ id key capacity s, newSession id key .responder capacity = .ok s → P s init

lemma known_new (P : Session → α → Prop) (init : α) (capacity : ℤ) :
    Known P init (fun _ => init) (newDataPlane capacity) :=
  ⟨by simp [newDataPlane], by simp⟩

lemma Known.current (h : Known P init x d) (hnew : HoldsOfNew P init)
    (hs : d.current resolver id = .ok s) : P s (x id) := by
  rcases hd : d.sessions id with _ | s'
  · rw [h.unbuilt id hd]
    simp only [DataPlane.current, hd] at hs
    rcases hk : resolver id with _ | key
    · simp [hk] at hs
    · simp only [hk] at hs
      exact hnew _ _ _ _ hs
  · rw [current_of_some hd] at hs
    cases hs
    exact h.kept id s hd

/-- Something happens to one session. -/
lemma Known.put (h : Known P init x d) {y : α} (hs : P s y) :
    Known P init (Function.update x id y) (d.put id s) := by
  refine ⟨?_, ?_⟩
  · intro id' s' hs'
    by_cases hne : id' = id
    · subst hne
      rw [put_sessions_self, Option.some.injEq] at hs'
      subst hs'
      simpa using hs
    · rw [put_sessions_of_ne _ _ hne] at hs'
      simpa [hne] using h.kept id' s' hs'
  · intro id' hnone
    by_cases hne : id' = id
    · subst hne
      simp at hnone
    · rw [put_sessions_of_ne _ _ hne] at hnone
      simpa [hne] using h.unbuilt id' hnone

/-- Something that the fact is not about happens to one session. -/
lemma Known.put_same (h : Known P init x d) (hs : P s (x id)) : Known P init x (d.put id s) := by
  have hput : Known P init (Function.update x id (x id)) (d.put id s) := h.put hs
  rwa [Function.update_eq_self] at hput

lemma Known.same (h : Known P init x d) (hnew : HoldsOfNew P init)
    (hsame : Same resolver d d') : Known P init x d' := by
  rcases hsame with rfl | ⟨id, s, hs, rfl⟩
  · exact h
  · exact h.put_same (h.current hnew hs)

end Known

/-! ## The numbers that were delivered -/

variable {ns : SessionID → List PacketNumber}

/-- The session has accepted these numbers, each of them once. -/
def HasDelivered (s : Session) (ns : List PacketNumber) : Prop :=
  s.window.HasAccepted ns ∧ ns.Nodup

lemma hasDelivered_new : HoldsOfNew HasDelivered [] := by
  intro id key capacity s hs
  obtain ⟨-, -, -, -, -, hw⟩ := newSession_ok hs
  exact ⟨ReplayWindow.hasAccepted_new hw, List.nodup_nil⟩

/-- The numbers delivered for each session are `ns`. -/
abbrev Delivered (ns : SessionID → List PacketNumber) (d : DataPlane) : Prop :=
  Known HasDelivered [] ns d

/-- The numbers delivered after a datagram with this number was accepted. -/
def deliver (ns : SessionID → List PacketNumber) (id : PacketID) (decision : ReplayDecision) :
    SessionID → List PacketNumber :=
  if decision = .firstCopy then Function.update ns id.session (ns id.session ++ [id.number])
  else ns

/-- **No number is delivered twice.** -/
lemma Delivered.seen (h : Delivered ns d) {id : PacketID}
    (hs : d.current resolver id.session = .ok s) :
    Delivered (deliver ns id (s.window.observe id.number).1)
      (d.put id.session (s.seen id.number)) := by
  obtain ⟨hw, hnodup⟩ := h.current hasDelivered_new hs
  by_cases hn : (s.window.observe id.number).1 = .firstCopy
  · obtain ⟨hnew, hw'⟩ := hw.firstCopy hn
    rw [deliver, if_pos hn]
    exact h.put ⟨hw', List.nodup_append_singleton.mpr ⟨hnew, hnodup⟩⟩
  · rw [deliver, if_neg hn]
    exact h.put_same ⟨hw.other hn, hnodup⟩

end DataPlane
end Gemina
