/-
# Handles name one thing, once

The host holds nothing but numbers.  Whatever it calls, from whatever threads: a registry never
issues a handle twice, a handshake handle is good for one session at most and for one completion
or cancellation, a freed session handle stays free, and a call on one session leaves all others
alone.
-/
import Gemina.Bridge.Process
import Gemina.Lib.Counter
import Gemina.Lib.Mealy

namespace Gemina
namespace Bridge

/-- The steps of a run, with what they returned. -/
abbrev Trace : Type := List (Action × Output)

/-- The handshake handles that were issued. -/
def begun (t : Trace) : List UInt64 := t.filterMap fun e => e.2.begun

/-- The session handles that were issued. -/
def registered (t : Trace) : List UInt64 := t.filterMap fun e => e.2.registered

/-- The session that a step has made of a handshake. -/
def Output.yielded (hsHandle : UInt64) : Output → Option UInt64
  | .completed h handle _ => if h = hsHandle then handle else none
  | _ => none

/-- The sessions that were made of a handshake. -/
def yields (t : Trace) (hsHandle : UInt64) : List UInt64 :=
  t.filterMap fun e => e.2.yielded hsHandle

lemma begun_concat (t : Trace) (e : Action × Output) :
    begun (t ++ [e]) = begun t ++ e.2.begun.toList := by
  cases h : e.2.begun <;> simp [begun, h]

lemma registered_concat (t : Trace) (e : Action × Output) :
    registered (t ++ [e]) = registered t ++ e.2.registered.toList := by
  cases h : e.2.registered <;> simp [registered, h]

lemma yields_concat (t : Trace) (e : Action × Output) (h : UInt64) :
    yields (t ++ [e]) h = yields t h ++ (e.2.yielded h).toList := by
  cases hy : e.2.yielded h <;> simp [yields, hy]

/-- A step that registers nothing yields nothing. -/
lemma Output.yielded_eq_none {o : Output} (ho : o.registered = none) (h : UInt64) :
    o.yielded h = none := by
  cases o with
  | completed h' handle ip =>
    have hnone : handle = none := ho
    simp [yielded, hnone]
  | _ => rfl

lemma yields_concat_of_none (t : Trace) {e : Action × Output} (he : e.2.registered = none)
    (h : UInt64) : yields (t ++ [e]) h = yields t h := by
  rw [yields_concat, Output.yielded_eq_none he]
  simp

namespace Process

/-! ## Pointers -/

/-- The handle is registered for this session, or a call that has found the session under the
handle still runs. -/
def Refers (p : Process) (h : UInt64) (ref : ℕ) : Prop :=
  p.sessions h = some ref ∨ ∃ thread rest, p.calls thread = some rest ∧ rest.uses = some (h, ref)

/-- Sessions are registered in the order in which they are allocated, each under one handle. -/
structure Pointers (t : Trace) (p : Process) : Prop where
  issued : Counter.Issued p.next (registered t)
  heap_length : p.heap.length = (registered t).length
  refers : ∀ {h ref}, p.Refers h ref → ref < p.heap.length ∧ h = UInt64.ofNat ref + 1

namespace Pointers

variable {t : Trace} {p p' : Process} {e : Action × Output} {a : Action} {o : Output}

/-- A step that registers nothing and finds nothing that was not there. -/
lemma of_subset (hp : Pointers t p) (he : e.2.registered = none) (hnext : p'.next = p.next)
    (hheap : p'.heap.length = p.heap.length)
    (hrefers : ∀ {h ref}, p'.Refers h ref → p.Refers h ref) : Pointers (t ++ [e]) p' := by
  have hsame : registered (t ++ [e]) = registered t := by simp [registered_concat, he]
  refine ⟨?_, ?_, ?_⟩
  · rw [hsame, hnext]
    exact hp.issued
  · rw [hsame, hheap]
    exact hp.heap_length
  · intro h ref href
    rw [hheap]
    exact hp.refers (hrefers href)

/-- A step that registers a session. -/
lemma of_add (hp : Pointers t p) (s : Session) (he : e.2.registered = some (p.next + 1)) :
    Pointers (t ++ [e]) (p.add s).2 := by
  have hmore : registered (t ++ [e]) = registered t ++ [p.next + 1] := by
    simp [registered_concat, he]
  have hlength : (p.heap ++ [s]).length = p.heap.length + 1 := by simp
  refine ⟨?_, ?_, ?_⟩
  · rw [hmore]
    exact hp.issued.draw
  · rw [hmore, List.length_append, List.length_singleton, ← hp.heap_length]
    exact hlength
  · intro h ref href
    show ref < (p.heap ++ [s]).length ∧ _
    rw [hlength]
    rcases href with hreg | hcall
    · by_cases hh : h = p.next + 1
      · -- the new session is the last one of the heap
        have hlast : some p.heap.length = some ref := by
          rw [← hreg, hh]
          exact (Function.update_self (p.next + 1) (some p.heap.length) p.sessions).symm
        obtain rfl := Option.some.inj hlast
        refine ⟨Nat.lt_succ_self _, ?_⟩
        rw [hh, hp.issued.1, hp.heap_length]
      · have hold : p.sessions h = some ref := by
          rw [← hreg]
          exact (Function.update_of_ne hh (some p.heap.length) p.sessions).symm
        obtain ⟨hlt, heq⟩ := hp.refers (Or.inl hold)
        exact ⟨by omega, heq⟩
    · obtain ⟨hlt, heq⟩ := hp.refers (Or.inr hcall)
      exact ⟨by omega, heq⟩

/-- A thread that returns holds no pointer any more. -/
lemma refers_setCall_none {thread : ℕ} {h : UInt64} {ref : ℕ}
    (href : (p.setCall thread none).Refers h ref) : p.Refers h ref := by
  rcases href with hreg | ⟨thread', rest, hcall, huses⟩
  · exact Or.inl hreg
  · refine Or.inr ⟨thread', rest, ?_, huses⟩
    by_cases hth : thread' = thread
    · simp [setCall, hth] at hcall
    · simpa [setCall, hth] using hcall

lemma setCall_none (hp : Pointers t p) (thread : ℕ) : Pointers t (p.setCall thread none) :=
  ⟨hp.issued, hp.heap_length, fun href => hp.refers (refers_setCall_none href)⟩

/-- **One step keeps the order of the sessions.** -/
lemma step (hp : Pointers t p) (h : Effect p a o p') : Pointers (t ++ [(a, o)]) p' := by
  cases h with
  | nothing ho => exact hp.of_subset ho.2 rfl rfl id
  | began hs hn => exact hp.of_subset rfl rfl rfl id
  | took hpending =>
    rename_i thread h hs serverHello dedupCapacity ipCap
    refine hp.of_subset rfl rfl rfl fun {h' ref} href => ?_
    rcases href with hreg | ⟨thread', rest, hcall, huses⟩
    · exact Or.inl hreg
    · refine Or.inr ⟨thread', rest, ?_, huses⟩
      by_cases hth : thread' = thread
      · -- a call that completes a handshake holds no session
        simp only [setCall, hth, Function.update_self, Option.some.injEq] at hcall
        simp [← hcall, Rest.uses] at huses
      · simpa [setCall, hth] using hcall
  | cancelled => exact hp.of_subset rfl rfl rfl id
  | created s => exact hp.of_add s rfl
  | found hget huses =>
    rename_i thread c h ref rest
    refine hp.of_subset rfl rfl rfl fun {h' ref'} href => ?_
    rcases href with hreg | ⟨thread', rest', hcall, huses'⟩
    · exact Or.inl hreg
    · by_cases hth : thread' = thread
      · -- what was found is what is registered
        simp only [setCall, hth, Function.update_self, Option.some.injEq] at hcall
        rw [← hcall, huses, Option.some.injEq, Prod.mk.injEq] at huses'
        obtain ⟨rfl, rfl⟩ := huses'
        exact Or.inl hget
      · exact Or.inr ⟨thread', rest', by simpa [setCall, hth] using hcall, huses'⟩
  | freed =>
    rename_i thread h
    refine hp.of_subset rfl rfl rfl fun {h' ref} href => ?_
    rcases href with hreg | hcall
    · left
      by_cases hh : h' = h
      · simp [hh] at hreg
      · simpa [hh] using hreg
    · exact Or.inr hcall
  | stopped ho => exact hp.of_subset ho.2 rfl rfl refers_setCall_none
  | completed s hcall => exact (hp.setCall_none _).of_add s rfl
  | used s hcall huses ho =>
    exact hp.of_subset ho.2 rfl (List.length_set ..) fun href => refers_setCall_none href

/-- Every handle stands for a session of its own. -/
lemma sound (hp : Pointers t p) : p.Sound where
  lt hreg := (hp.refers (Or.inl hreg)).1
  inj hreg hreg' := (hp.refers (Or.inl hreg)).2.trans (hp.refers (Or.inl hreg')).2.symm

/-- A handle that was issued and is free stays free. -/
lemma free_step (hp : Pointers t p) (hfew : (registered t).length < 2 ^ 64)
    (heff : Effect p a o p') {h : UInt64} (hissued : h ∈ registered t)
    (hfree : p.sessions h = none) : p'.sessions h = none := by
  have hnew : h ≠ p.next + 1 := fun heq => hp.issued.not_mem hfew (heq ▸ hissued)
  cases heff with
  | created s => simpa [add, hnew] using hfree
  | completed s hcall => simpa [add, setCall, hnew] using hfree
  | freed =>
    rename_i thread h'
    by_cases hh : h = h'
    · simp [hh]
    · simpa [hh] using hfree
  | _ => exact hfree

end Pointers

/-! ## Handshakes -/

/-- The thread has taken the handshake and is about to complete it. -/
def Completing (p : Process) (thread : ℕ) (h : UInt64) : Prop :=
  ∃ hs serverHello dedupCapacity ipCap,
    p.calls thread = some (.complete h hs serverHello dedupCapacity ipCap)

/-- A handshake is pending, or one thread completes it, or it has yielded its session; never two
of these. -/
structure OneShot (t : Trace) (p : Process) : Prop where
  issued : Counter.Issued p.hsReg.next (begun t)
  pending : ∀ {h}, p.hsReg.pending h ≠ none →
    h ∈ begun t ∧ yields t h = [] ∧ ∀ thread, ¬ p.Completing thread h
  completing : ∀ {thread h}, p.Completing thread h → h ∈ begun t ∧ yields t h = []
  completing_once : ∀ {thread thread' h}, p.Completing thread h → p.Completing thread' h →
    thread = thread'
  yields_begun : ∀ {h}, yields t h ≠ [] → h ∈ begun t
  yields_once : ∀ h, (yields t h).length ≤ 1

lemma completing_setCall {p : Process} {thread thread' : ℕ} {rest : Option Rest} {h : UInt64} :
    (p.setCall thread rest).Completing thread' h ↔
      if thread' = thread then
        ∃ hs serverHello dedupCapacity ipCap,
          rest = some (.complete h hs serverHello dedupCapacity ipCap)
      else p.Completing thread' h := by
  by_cases hth : thread' = thread
  · simp [Completing, setCall, hth]
  · simp [Completing, setCall, hth]

namespace OneShot

variable {t : Trace} {p p' : Process} {e : Action × Output} {a : Action} {o : Output}

/-- A step that issues no handle and takes no handshake to complete it. -/
lemma of_subset (hp : OneShot t p) (ho : e.2.Quiet) (hnext : p'.hsReg.next = p.hsReg.next)
    (hpending : ∀ {h}, p'.hsReg.pending h ≠ none → p.hsReg.pending h ≠ none)
    (hcompleting : ∀ {thread h}, p'.Completing thread h → p.Completing thread h) :
    OneShot (t ++ [e]) p' := by
  have hbegun : begun (t ++ [e]) = begun t := by simp [begun_concat, ho.1]
  have hyields := yields_concat_of_none t ho.2
  refine ⟨?_, ?_, ?_, ?_, ?_, ?_⟩
  · rw [hbegun, hnext]
    exact hp.issued
  · intro h hh
    obtain ⟨hmem, hnil, hnone⟩ := hp.pending (hpending hh)
    rw [hbegun, hyields]
    exact ⟨hmem, hnil, fun thread hc => hnone thread (hcompleting hc)⟩
  · intro thread h hc
    rw [hbegun, hyields]
    exact hp.completing (hcompleting hc)
  · exact fun hc hc' => hp.completing_once (hcompleting hc) (hcompleting hc')
  · intro h
    rw [hbegun, hyields]
    exact hp.yields_begun
  · intro h
    rw [hyields]
    exact hp.yields_once h

/-- A handshake is begun under a new handle. -/
lemma of_began (hp : OneShot t p) {n : ℤ} {hello : Bytes} (hs : ClientHandshake) (hn : 0 ≤ n)
    (hfew : (begun t).length < 2 ^ 64) :
    OneShot (t ++ [(a, .began n (p.hsReg.next + 1) hello)])
      { p with hsReg := (p.hsReg.add hs).2 } := by
  have hbegun : begun (t ++ [(a, .began n (p.hsReg.next + 1) hello)])
      = begun t ++ [p.hsReg.next + 1] := by
    simp [begun_concat, Output.begun, hn]
  have hyields := fun h => yields_concat_of_none t
    (e := (a, .began n (p.hsReg.next + 1) hello)) rfl h
  have hfresh := hp.issued.not_mem hfew
  refine ⟨?_, ?_, ?_, hp.completing_once, ?_, ?_⟩
  · rw [hbegun]
    exact hp.issued.draw
  · intro h hh
    rw [hbegun, hyields]
    by_cases hnew : h = p.hsReg.next + 1
    · -- nothing is known about the new handle
      subst hnew
      refine ⟨by simp, ?_, fun thread hc => hfresh (hp.completing hc).1⟩
      by_contra hne
      exact hfresh (hp.yields_begun hne)
    · have hold : p.hsReg.pending h ≠ none := by
        simpa [HSRegistry.add, hnew] using hh
      obtain ⟨hmem, hnil, hnone⟩ := hp.pending hold
      exact ⟨List.mem_append_left _ hmem, hnil, hnone⟩
  · intro thread h hc
    rw [hbegun, hyields]
    exact ⟨List.mem_append_left _ (hp.completing hc).1, (hp.completing hc).2⟩
  · intro h hh
    rw [hyields] at hh
    rw [hbegun]
    exact List.mem_append_left _ (hp.yields_begun hh)
  · intro h
    rw [hyields]
    exact hp.yields_once h

/-- A thread takes a handshake to complete it. -/
lemma of_took (hp : OneShot t p) {thread : ℕ} {h : UInt64} {hs : ClientHandshake}
    {serverHello : Bytes} {dedupCapacity : ℤ} {ipCap : ℕ} (hh : p.hsReg.pending h ≠ none)
    (ho : e.2.Quiet) :
    OneShot (t ++ [e]) ({ p with hsReg := (p.hsReg.take h).2 }.setCall thread
      (some (.complete h hs serverHello dedupCapacity ipCap))) := by
  have hbegun : begun (t ++ [e]) = begun t := by simp [begun_concat, ho.1]
  have hyields := yields_concat_of_none t ho.2
  obtain ⟨hmem, hnil, hnone⟩ := hp.pending hh
  -- who completes a handshake now is this thread, for this one, or did so before
  have hcases : ∀ {thread' h'}, ({ p with hsReg := (p.hsReg.take h).2 }.setCall thread
      (some (.complete h hs serverHello dedupCapacity ipCap))).Completing thread' h' →
      thread' = thread ∧ h' = h ∨ thread' ≠ thread ∧ p.Completing thread' h' := by
    intro thread' h' hc
    rw [completing_setCall] at hc
    by_cases hth : thread' = thread
    · rw [if_pos hth] at hc
      obtain ⟨_, _, _, _, heq⟩ := hc
      exact Or.inl ⟨hth, by simp_all⟩
    · rw [if_neg hth] at hc
      exact Or.inr ⟨hth, hc⟩
  refine ⟨?_, ?_, ?_, ?_, ?_, ?_⟩
  · rw [hbegun]
    simpa [setCall, HSRegistry.take_snd] using hp.issued
  · intro h' hh'
    have hne : h' ≠ h ∧ p.hsReg.pending h' ≠ none := by
      by_cases heq : h' = h
      · simp [setCall, HSRegistry.take_snd, heq] at hh'
      · simpa [setCall, HSRegistry.take_snd, heq] using hh'
    rw [hbegun, hyields]
    refine ⟨(hp.pending hne.2).1, (hp.pending hne.2).2.1, fun thread' hc => ?_⟩
    rcases hcases hc with ⟨-, heq⟩ | ⟨-, hc⟩
    · exact hne.1 heq
    · exact (hp.pending hne.2).2.2 thread' hc
  · intro thread' h' hc
    rw [hbegun, hyields]
    rcases hcases hc with ⟨-, rfl⟩ | ⟨-, hc⟩
    · exact ⟨hmem, hnil⟩
    · exact hp.completing hc
  · intro thread₁ thread₂ h' hc₁ hc₂
    rcases hcases hc₁ with ⟨hth₁, heq⟩ | ⟨-, hold₁⟩
    · rcases hcases hc₂ with ⟨hth₂, -⟩ | ⟨-, hold₂⟩
      · rw [hth₁, hth₂]
      · exact absurd (heq ▸ hold₂) (hnone thread₂)
    · rcases hcases hc₂ with ⟨-, heq⟩ | ⟨-, hold₂⟩
      · exact absurd (heq ▸ hold₁) (hnone thread₁)
      · exact hp.completing_once hold₁ hold₂
  · intro h'
    rw [hbegun, hyields]
    exact hp.yields_begun
  · intro h'
    rw [hyields]
    exact hp.yields_once h'

/-- The thread that has taken a handshake makes a session of it. -/
lemma of_completed (hp : OneShot t p) {thread : ℕ} {h handle : UInt64} {ip : Bytes} (s : Session)
    (hc : p.Completing thread h) :
    OneShot (t ++ [(a, .completed h (some handle) ip)])
      ((p.setCall thread none).add s).2 := by
  have hbegun : begun (t ++ [(a, .completed h (some handle) ip)]) = begun t := by
    simp [begun_concat, Output.begun]
  have hself : yields (t ++ [(a, .completed h (some handle) ip)]) h = [handle] := by
    rw [yields_concat, (hp.completing hc).2]
    simp [Output.yielded]
  have hother : ∀ {h'}, h' ≠ h →
      yields (t ++ [(a, .completed h (some handle) ip)]) h' = yields t h' := by
    intro h' hne
    rw [yields_concat]
    simp [Output.yielded, Ne.symm hne]
  have hleft : ∀ {thread' h'}, ((p.setCall thread none).add s).2.Completing thread' h' →
      thread' ≠ thread ∧ p.Completing thread' h' := by
    intro thread' h' hc'
    have hc'' := completing_setCall.mp (show (p.setCall thread none).Completing thread' h' from hc')
    by_cases hth : thread' = thread
    · simp [hth] at hc''
    · rw [if_neg hth] at hc''
      exact ⟨hth, hc''⟩
  refine ⟨?_, ?_, ?_, ?_, ?_, ?_⟩
  · rw [hbegun]
    exact hp.issued
  · intro h' hh'
    obtain ⟨hmem, hnil, hnone⟩ := hp.pending hh'
    have hne : h' ≠ h := by
      rintro rfl
      exact hnone thread hc
    rw [hbegun, hother hne]
    exact ⟨hmem, hnil, fun thread' hc' => hnone thread' (hleft hc').2⟩
  · intro thread' h' hc'
    obtain ⟨hth, hold⟩ := hleft hc'
    have hne : h' ≠ h := by
      rintro rfl
      exact hth (hp.completing_once hold hc)
    rw [hbegun, hother hne]
    exact hp.completing hold
  · exact fun hc₁ hc₂ => hp.completing_once (hleft hc₁).2 (hleft hc₂).2
  · intro h' hne
    rw [hbegun]
    by_cases heq : h' = h
    · rw [heq]
      exact (hp.completing hc).1
    · rw [hother heq] at hne
      exact hp.yields_begun hne
  · intro h'
    by_cases heq : h' = h
    · rw [heq, hself]
      simp
    · rw [hother heq]
      exact hp.yields_once h'

/-- What was taken is not pending. -/
lemma pending_take {r : HSRegistry} {h h' : UInt64} (hh : (r.take h).2.pending h' ≠ none) :
    h' ≠ h ∧ r.pending h' ≠ none := by
  by_cases heq : h' = h
  · simp [HSRegistry.take_snd, heq] at hh
  · exact ⟨heq, by simpa [HSRegistry.take_snd, heq] using hh⟩

/-- **One step keeps handshakes apart.** -/
lemma step (hp : OneShot t p) (hfew : (begun t).length < 2 ^ 64)
    (h : Effect p a o p') : OneShot (t ++ [(a, o)]) p' := by
  have hreturned : ∀ {thread thread' h}, (p.setCall thread none).Completing thread' h →
      p.Completing thread' h := by
    intro thread thread' h hc
    rw [completing_setCall] at hc
    by_cases hth : thread' = thread
    · simp [hth] at hc
    · rwa [if_neg hth] at hc
  cases h with
  | nothing ho => exact hp.of_subset ho rfl id id
  | began hs hn => exact hp.of_began hs hn hfew
  | took hpending => exact hp.of_took hpending ⟨rfl, rfl⟩
  | cancelled =>
    exact hp.of_subset ⟨rfl, rfl⟩ (by simp [HSRegistry.take_snd]) (fun hh => (pending_take hh).2) id
  | created s =>
    have hquiet : ∀ h, yields (t ++ [(a, .created (some (p.next + 1)))]) h = yields t h := by
      intro h
      rw [yields_concat]
      simp [Output.yielded]
    have hbegun : begun (t ++ [(a, .created (some (p.next + 1)))]) = begun t := by
      simp [begun_concat, Output.begun]
    refine ⟨?_, ?_, ?_, hp.completing_once, ?_, ?_⟩ <;> simp only [hquiet, hbegun]
    exacts [hp.issued, hp.pending, hp.completing, hp.yields_begun, hp.yields_once]
  | found hget huses =>
    rename_i thread c h ref rest
    refine hp.of_subset ⟨rfl, rfl⟩ rfl id fun {thread' h'} hc => ?_
    rw [completing_setCall] at hc
    by_cases hth : thread' = thread
    · rw [if_pos hth] at hc
      obtain ⟨_, _, _, _, heq⟩ := hc
      rw [Option.some.inj heq] at huses
      cases huses
    · rwa [if_neg hth] at hc
  | freed => exact hp.of_subset ⟨rfl, rfl⟩ rfl id id
  | stopped ho => exact hp.of_subset ho rfl id hreturned
  | completed s hcall => exact hp.of_completed s ⟨_, _, _, _, hcall⟩
  | used s hcall huses ho => exact hp.of_subset ho rfl id hreturned

/-- A handle that was issued and is not pending is dead. -/
lemma dead_step (hp : OneShot t p) (hfew : (begun t).length < 2 ^ 64)
    (heff : Effect p a o p') {h : UInt64} (hissued : h ∈ begun t)
    (hdead : p.hsReg.pending h = none) : p'.hsReg.pending h = none := by
  cases heff with
  | began hs hn =>
    have hne : h ≠ p.hsReg.next + 1 := fun heq => hp.issued.not_mem hfew (heq ▸ hissued)
    simpa [HSRegistry.add, hne] using hdead
  | took hpending =>
    by_contra hne
    exact (pending_take hne).2 hdead
  | cancelled =>
    by_contra hne
    exact (pending_take hne).2 hdead
  | _ => exact hdead

end OneShot

/-! ## One session at a time -/

/-- The session handle that a step is about: the one in its call. -/
def names (p : Process) : Action → Option UInt64
  | .call _ (.outboundInto handle _ _) => some handle
  | .call _ (.inboundInto handle _ _) => some handle
  | .call _ (.sessionFree handle) => some handle
  | .call _ _ => none
  | .resume thread => (p.calls thread).bind fun rest => rest.uses.map Prod.fst

/-- **A step leaves the sessions of other handles alone**, and does not free these handles. -/
lemma Pointers.frame {t : Trace} {p p' : Process} {a : Action} {o : Output} (hp : Pointers t p)
    (hfew : (registered t).length < 2 ^ 64) (heff : Effect p a o p') {h : UInt64} {ref : ℕ}
    (hother : p.names a ≠ some h) (href : p.Refers h ref) :
    p'.heap[ref]? = p.heap[ref]? ∧ (p.sessions h = some ref → p'.sessions h = some ref) := by
  obtain ⟨hlt, hh⟩ := hp.refers href
  have hold : ∀ s, (p.heap ++ [s])[ref]? = p.heap[ref]? := fun s => List.getElem?_append_left hlt
  have hnew : h ≠ p.next + 1 := by
    intro heq
    refine hp.issued.not_mem hfew (heq ▸ hp.issued.mem_iff.mpr ⟨ref, ?_, hh⟩)
    rw [← hp.heap_length]
    exact hlt
  cases heff with
  | created s => exact ⟨hold s, fun hreg => by simpa [add, hnew] using hreg⟩
  | completed s hcall => exact ⟨hold s, fun hreg => by simpa [add, setCall, hnew] using hreg⟩
  | freed =>
    rename_i thread h'
    have hne : h ≠ h' := fun heq => hother (by rw [heq]; rfl)
    exact ⟨rfl, fun hreg => by simpa [hne] using hreg⟩
  | used s hcall huses ho =>
    rename_i thread rest h' ref'
    have hne : ref' ≠ ref := by
      -- the call holds a pointer of its own handle
      rintro rfl
      have hh' := (hp.refers (Or.inr ⟨_, _, hcall, huses⟩)).2
      exact hother (by simp [names, hcall, huses, hh, hh'])
    exact ⟨List.getElem?_set_ne hne, id⟩
  | _ => exact ⟨rfl, id⟩

end Process

/-! ## Runs -/

/-- The steps of a run from the start. -/
def run (C : Crypto) (E : Cipher) (acts : List Action) : Trace :=
  Mealy.trace (Process.step C E) Process.init acts

/-- The process after a run from the start. -/
def after (C : Crypto) (E : Cipher) (acts : List Action) : Process :=
  Mealy.state (Process.step C E) Process.init acts

variable {C : Crypto} {E : Cipher} {acts : List Action}

lemma pointers_run (C : Crypto) (E : Cipher) (acts : List Action) :
    Process.Pointers (run C E acts) (after C E acts) := by
  refine Mealy.invariant ?_ (fun t p a hp => hp.step (p.effect_step C E a)) acts
  refine ⟨Counter.issued_zero, rfl, ?_⟩
  rintro h ref (hreg | ⟨thread, rest, hcall, -⟩)
  · cases hreg
  · cases hcall

/-- **Between the steps of other threads, calls are those of the bridge.**  After every run, a call
that is not interrupted returns what the call of `Bridge` returns, and does what it does. -/
theorem whole_after_eq_call (C : Crypto) (E : Cipher) (acts : List Action)
    (hfew : (registered (run C E acts)).length + 1 < 2 ^ 64) {thread : ℕ}
    (hidle : (after C E acts).calls thread = none) (c : Call) :
    (((after C E acts).whole C E thread c).1, ((after C E acts).whole C E thread c).2.view)
      = (after C E acts).view.call C E c :=
  Process.whole_eq_call C E (pointers_run C E acts).sound hidle
    ((pointers_run C E acts).issued.fresh hfew).1 c

/-- One more step issues more handles, if any. -/
lemma few_of_concat {t : Trace} {e : Action × Output} (h : (begun (t ++ [e])).length < 2 ^ 64) :
    (begun t).length < 2 ^ 64 := by
  rw [begun_concat, List.length_append] at h
  omega

lemma few_registered_of_concat {t : Trace} {e : Action × Output}
    (h : (registered (t ++ [e])).length < 2 ^ 64) : (registered t).length < 2 ^ 64 := by
  rw [registered_concat, List.length_append] at h
  omega

lemma oneShot_run (hfew : (begun (run C E acts)).length < 2 ^ 64) :
    Process.OneShot (run C E acts) (after C E acts) := by
  refine Mealy.invariant (P := fun t p => (begun t).length < 2 ^ 64 → Process.OneShot t p) ?_ ?_
    acts hfew
  · intro _
    refine ⟨Counter.issued_zero, ?_, ?_, ?_, ?_, ?_⟩
    · exact fun h => absurd rfl h
    · rintro thread h ⟨_, _, _, _, hcall⟩
      cases hcall
    · rintro thread thread' h ⟨_, _, _, _, hcall⟩
      cases hcall
    · exact fun h => absurd rfl h
    · exact fun _ => Nat.zero_le 1
  · exact fun t p a hp hfew => (hp (few_of_concat hfew)).step (few_of_concat hfew)
      (p.effect_step C E a)

/-- A handshake handle that is dead stays dead. -/
lemma dead_run {acts' : List Action} (hfew : (begun (run C E (acts ++ acts'))).length < 2 ^ 64)
    {h : UInt64} (hissued : h ∈ begun (run C E acts))
    (hdead : (after C E acts).hsReg.pending h = none) :
    (after C E (acts ++ acts')).hsReg.pending h = none := by
  refine (@Mealy.invariant_append _ _ _ (Process.step C E) Process.init
    (fun t p => (begun t).length < 2 ^ 64 →
      Process.OneShot t p ∧ h ∈ begun t ∧ p.hsReg.pending h = none)
    acts ?_ ?_ acts' hfew).2.2
  · exact fun hfew => ⟨oneShot_run hfew, hissued, hdead⟩
  · intro t p a hp hfew
    obtain ⟨hone, hmem, hnone⟩ := hp (few_of_concat hfew)
    have heff := p.effect_step C E a
    refine ⟨hone.step (few_of_concat hfew) heff, ?_,
      hone.dead_step (few_of_concat hfew) heff hmem hnone⟩
    rw [begun_concat]
    exact List.mem_append_left _ hmem

/-- A session handle that is free stays free. -/
lemma free_run {acts' : List Action}
    (hfew : (registered (run C E (acts ++ acts'))).length < 2 ^ 64) {h : UInt64}
    (hissued : h ∈ registered (run C E acts)) (hfree : (after C E acts).sessions h = none) :
    (after C E (acts ++ acts')).sessions h = none := by
  refine (@Mealy.invariant_append _ _ _ (Process.step C E) Process.init
    (fun t p => (registered t).length < 2 ^ 64 →
      Process.Pointers t p ∧ h ∈ registered t ∧ p.sessions h = none)
    acts ?_ ?_ acts' hfew).2.2
  · exact fun _ => ⟨pointers_run C E acts, hissued, hfree⟩
  · intro t p a hp hfew
    obtain ⟨hptr, hmem, hnone⟩ := hp (few_registered_of_concat hfew)
    have heff := p.effect_step C E a
    refine ⟨hptr.step heff, ?_, hptr.free_step (few_registered_of_concat hfew) heff hmem hnone⟩
    rw [registered_concat]
    exact List.mem_append_left _ hmem

/-! ## The result -/

/-- The call takes the handshake with this handle from the registry. -/
def Call.Consumes (h : UInt64) : Call → Prop
  | .completeHandshake hsHandle _ _ _ => hsHandle = h
  | .cancelHandshake hsHandle => hsHandle = h
  | _ => False

lemma Process.step_consumes {p : Process} {thread : ℕ} (hidle : p.calls thread = none) {c : Call}
    {h : UInt64} (hc : c.Consumes h) :
    (p.step C E (.call thread c)).2.hsReg.pending h = none := by
  cases c with
  | completeHandshake hsHandle serverHello dedupCapacity ipCap =>
    obtain rfl : hsHandle = h := hc
    rcases hp : p.hsReg.pending hsHandle with _ | hs
    · simp [Process.step, hidle, Process.start, HSRegistry.take, hp]
    · simp [Process.step, hidle, Process.start, HSRegistry.take, hp, Process.setCall]
  | cancelHandshake hsHandle =>
    obtain rfl : hsHandle = h := hc
    simp [Process.step, hidle, Process.start, HSRegistry.take_snd]
  | _ => exact hc.elim

/-- **Handles are sound.**  After every run of the bridge, with any number of threads and any
interleaving of their calls, in which fewer than `2 ^ 64` handles of each kind were issued:

* the handles of a registry are different from each other, and none is zero;
* a handshake has yielded one session at most;
* a handshake handle that was named by a `completeHandshake` or a `cancelHandshake` is dead: there
  is nothing under it, and completing it fails;
* a session handle that was freed is free;
* the next step, of a call that names a session handle or of any other, changes no session that
  another handle stands for, or that a call on another handle still uses, and it frees no other
  handle. -/
theorem handles_sound (C : Crypto) (E : Cipher) (acts : List Action)
    (hfew : (begun (run C E acts)).length < 2 ^ 64)
    (hfew' : (registered (run C E acts)).length < 2 ^ 64) :
    ((begun (run C E acts)).Nodup ∧ ∀ h ∈ begun (run C E acts), h ≠ 0) ∧
    ((registered (run C E acts)).Nodup ∧ ∀ h ∈ registered (run C E acts), h ≠ 0) ∧
    (∀ h, (yields (run C E acts) h).length ≤ 1) ∧
    (∀ acts₁ thread c acts₂ h, acts = acts₁ ++ .call thread c :: acts₂ → c.Consumes h →
      (after C E acts₁).calls thread = none → h ∈ begun (run C E acts₁) →
      (after C E acts).hsReg.pending h = none ∧
      ∀ thread' serverHello dedupCapacity ipCap, (after C E acts).calls thread' = none →
        (after C E acts).step C E
            (.call thread' (.completeHandshake h serverHello dedupCapacity ipCap))
          = (.completed h none [], after C E acts)) ∧
    (∀ acts₁ thread acts₂ h, acts = acts₁ ++ .call thread (.sessionFree h) :: acts₂ →
      (after C E acts₁).calls thread = none → h ∈ registered (run C E acts₁) →
      (after C E acts).sessions h = none) ∧
    (∀ a h ref, (after C E acts).names a ≠ some h → (after C E acts).Refers h ref →
      ((after C E acts).step C E a).2.heap[ref]? = (after C E acts).heap[ref]? ∧
      ((after C E acts).sessions h = some ref →
        ((after C E acts).step C E a).2.sessions h = some ref)) := by
  have hone := oneShot_run hfew
  have hptr := pointers_run C E acts
  refine ⟨⟨hone.issued.nodup hfew.le, fun h => hone.issued.ne_zero hfew⟩,
    ⟨hptr.issued.nodup hfew'.le, fun h => hptr.issued.ne_zero hfew'⟩, hone.yields_once, ?_, ?_, ?_⟩
  · rintro acts₁ thread c acts₂ h rfl hc hidle hissued
    have hsplit : acts₁ ++ .call thread c :: acts₂ = (acts₁ ++ [.call thread c]) ++ acts₂ := by simp
    rw [hsplit] at hfew ⊢
    -- the handle is dead right after the call, and stays so
    have hdead : (after C E (acts₁ ++ [.call thread c])).hsReg.pending h = none := by
      rw [after, Mealy.state_concat]
      exact Process.step_consumes hidle hc
    have hissued' : h ∈ begun (run C E (acts₁ ++ [.call thread c])) := by
      rw [run, Mealy.trace_concat, begun_concat]
      exact List.mem_append_left _ hissued
    have hnone := dead_run hfew hissued' hdead
    refine ⟨hnone, fun thread' serverHello dedupCapacity ipCap hidle' => ?_⟩
    simp only [Process.step, hidle', Process.start, HSRegistry.take, hnone]
  · rintro acts₁ thread acts₂ h rfl hidle hissued
    have hsplit : acts₁ ++ .call thread (.sessionFree h) :: acts₂
        = (acts₁ ++ [.call thread (.sessionFree h)]) ++ acts₂ := by simp
    rw [hsplit] at hfew' ⊢
    have hfree : (after C E (acts₁ ++ [.call thread (.sessionFree h)])).sessions h = none := by
      rw [after, Mealy.state_concat]
      have hidle' : (Mealy.state (Process.step C E) Process.init acts₁).calls thread = none := hidle
      simp [Process.step, hidle', Process.start]
    have hissued' : h ∈ registered (run C E (acts₁ ++ [.call thread (.sessionFree h)])) := by
      rw [run, Mealy.trace_concat, registered_concat]
      exact List.mem_append_left _ hissued
    exact free_run hfew' hissued' hfree
  · exact fun a h ref hother href => hptr.frame hfew' (Process.effect_step C E _ a) hother href

section Sample

set_option maxRecDepth 8000

/-- Two threads: a handshake is begun and cancelled, a session is created, freed while a call on
it runs, and another one is created. -/
def sampleActions : List Action :=
  [.call 1 (.beginHandshake (List.replicate 32 1) [] 200 (.ok (sampleClient 1))
      (.ok (ByteArrayN.zero _)) 0),
    .call 2 (.cancelHandshake 1),
    .call 1 (.createSession (List.replicate 16 1) (List.replicate 32 7) .initiator 64),
    .call 1 (.outboundInto 1 [] 200),
    .call 2 (.sessionFree 1),
    .resume 1,
    .call 2 (.createSession (List.replicate 16 1) (List.replicate 32 7) .initiator 64)]

/-- In the sample run the handles one and two are issued; the first is free, the handshake is
dead. -/
theorem handles_sound_sample :
    registered (run sumCrypto checksumCipher sampleActions) = [1, 2] ∧
    (after sumCrypto checksumCipher sampleActions).hsReg.pending 1 = none ∧
    (after sumCrypto checksumCipher sampleActions).sessions 1 = none := by
  have hbegun : begun (run sumCrypto checksumCipher sampleActions) = [1] := by decide +kernel
  have hregistered : registered (run sumCrypto checksumCipher sampleActions) = [1, 2] := by
    decide +kernel
  obtain ⟨-, -, -, hdead, hfree, -⟩ := handles_sound sumCrypto checksumCipher sampleActions
    (by rw [hbegun]; decide) (by rw [hregistered]; decide)
  refine ⟨hregistered, ?_, ?_⟩
  · exact (hdead (sampleActions.take 1) 2 (.cancelHandshake 1) (sampleActions.drop 2) 1 rfl rfl rfl
      (by decide +kernel)).1
  · exact hfree (sampleActions.take 4) 2 (sampleActions.drop 5) 1 rfl (by decide +kernel)
      (by decide +kernel)

end Sample

end Bridge
end Gemina
