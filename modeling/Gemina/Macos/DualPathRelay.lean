/-
# Sending over the selected paths

The outbound half of the relay (`DualPathRelay.sendOutbound` of
`apps/macos/PacketTunnelExtension/DualPathTransport.swift`).  It frames a packet once and sends the
bytes over every sender whose name the policy selects.  A send that throws is noted and does not
stop the others.

The core and the senders are arbitrary functions of a state of the world that all of them share, so
that each send may throw or not, also depending on the sends before.  The model records what was
called, and the results say that each recorded attempt is what the sender did in the world that the
calls before it left.
-/
import Gemina.Protocol
import Gemina.Macos.PathPolicy

namespace Gemina
namespace Macos

variable {ID W Err : Type*} [DecidableEq ID]

/-- `TransportCore`, as far as sending uses it. -/
structure TransportCore (W Err : Type*) where
  outbound : Bytes → W → Except Err Bytes × W

/-- `PathSender`.  A send returns the error that it throws, if any. -/
structure PathSender (ID W Err : Type*) where
  name : ID
  send : Bytes → W → Option Err × W

/-- `DualPathRelay`. -/
structure DualPathRelay (ID W Err : Type*) where
  core : TransportCore W Err
  paths : List (PathSender ID W Err)
  policy : PathPolicy ID

/-- An attempt to send: the sender, by its position and its name, and the error that it threw. -/
structure Attempt (ID Err : Type*) where
  path : ℕ
  name : ID
  thrown : Option Err

/-- The calls that the relay makes. -/
inductive RelayCall (ID Err : Type*) where
  | outbound (packet : Bytes)
  | send (attempt : Attempt ID Err) (datagram : Bytes)

/-- The errors in the result of `sendOutbound`. -/
inductive Failure (ID Err : Type*) where
  | thrown (error : Err)
  /-- `RelayError.noSenderForSelectedPath`. -/
  | noSenderForSelectedPath (id : ID)

/-- The result of `sendOutbound`: the failures by name. -/
abbrev Failures (ID Err : Type*) : Type _ := ID → Option (Failure ID Err)

/-- What has happened so far: the failures, the calls, and the state of the world. -/
structure Sending (ID W Err : Type*) where
  failures : Failures ID Err
  calls : List (RelayCall ID Err)
  world : W

/-- One turn of the loop over the senders. -/
def sendOver (framed : Bytes) (selected : List ID) (s : Sending ID W Err)
    (path : PathSender ID W Err × ℕ) : Sending ID W Err :=
  if path.1.name ∈ selected then
    let (thrown, world) := path.1.send framed s.world
    { failures :=
        match thrown with
        | none => s.failures
        | some error => Function.update s.failures path.1.name (some (.thrown error))
      calls := s.calls ++ [.send ⟨path.2, path.1.name, thrown⟩ framed]
      world := world }
  else s

/-- The selected ids that have no sender.  They are visited in some order, each once. -/
def missingSenders (selected senderNames : List ID) : List ID :=
  selected.dedup.filter fun id => id ∉ senderNames

/-- `sendOutbound`: what it returns or throws, the calls that it makes, and the state of the
world. -/
def DualPathRelay.sendOutbound (relay : DualPathRelay ID W Err) (packet : Bytes)
    (pathStates : List (PathInfo ID)) (primaryUnstable : Bool) (world : W) :
    Except Err (Failures ID Err) × List (RelayCall ID Err) × W :=
  match relay.core.outbound packet world with
  | (.error error, world) => (.error error, [.outbound packet], world)
  | (.ok framed, world) =>
    let selected := relay.policy.sendPaths pathStates primaryUnstable
    let senderNames := relay.paths.map fun path => path.name
    let s := relay.paths.zipIdx.foldl (sendOver framed selected)
      ⟨fun _ => none, [.outbound packet], world⟩
    let failures := (missingSenders selected senderNames).foldl
      (fun failures missing =>
        Function.update failures missing (some (.noSenderForSelectedPath missing))) s.failures
    (.ok failures, s.calls, s.world)

/-! ## The loop over the senders -/

/-- The senders whose names are selected, by position and name. -/
def selectedSenders (selected : List ID) (paths : List (PathSender ID W Err × ℕ)) :
    List (ℕ × ID) :=
  (paths.filter fun path => path.1.name ∈ selected).map fun path => (path.2, path.1.name)

/-- The last error that a sender of this name threw. -/
def lastThrown (name : ID) (attempts : List (Attempt ID Err)) : Option Err :=
  (attempts.filterMap fun a => if a.name = name then a.thrown else none).getLast?

lemma lastThrown_concat (name : ID) (attempts : List (Attempt ID Err)) (a : Attempt ID Err) :
    lastThrown name (attempts ++ [a])
      = if a.name = name then a.thrown.or (lastThrown name attempts)
        else lastThrown name attempts := by
  rw [lastThrown, List.filterMap_append]
  by_cases hname : a.name = name
  · cases hthrown : a.thrown with
    | none => simp [hname, hthrown, lastThrown]
    | some error => simp [hname, hthrown]
  · simp [hname, lastThrown]

lemma lastThrown_eq_some {name : ID} {attempts : List (Attempt ID Err)} {error : Err}
    (h : lastThrown name attempts = some error) :
    ∃ a ∈ attempts, a.name = name ∧ a.thrown = some error := by
  obtain ⟨a, ha, hthrown⟩ := List.mem_filterMap.mp (List.mem_of_getLast? h)
  split at hthrown
  · rename_i hname
    exact ⟨a, ha, hname, hthrown⟩
  · cases hthrown

lemma lastThrown_isSome_iff {name : ID} {attempts : List (Attempt ID Err)} :
    (lastThrown name attempts).isSome = true ↔
      ∃ a ∈ attempts, a.name = name ∧ a.thrown.isSome = true := by
  constructor
  · intro h
    obtain ⟨error, herror⟩ := Option.isSome_iff_exists.mp h
    obtain ⟨a, ha, hname, hthrown⟩ := lastThrown_eq_some herror
    exact ⟨a, ha, hname, by rw [hthrown]; rfl⟩
  · rintro ⟨a, ha, hname, hthrown⟩
    obtain ⟨error, herror⟩ := Option.isSome_iff_exists.mp hthrown
    rw [lastThrown, List.getLast?_isSome]
    exact List.ne_nil_of_mem (List.mem_filterMap.mpr ⟨a, ha, by rw [if_pos hname, herror]⟩)

/-- The last error of a name that was attempted once is the error of that attempt. -/
lemma lastThrown_of_nodup {attempts : List (Attempt ID Err)}
    (hnodup : (attempts.map fun a => a.name).Nodup) {a : Attempt ID Err} (ha : a ∈ attempts)
    {error : Err} (hthrown : a.thrown = some error) :
    lastThrown a.name attempts = some error := by
  obtain ⟨last, hlast⟩ := Option.isSome_iff_exists.mp
    (lastThrown_isSome_iff.mpr ⟨a, ha, rfl, by rw [hthrown]; rfl⟩)
  obtain ⟨a', ha', hname', hthrown'⟩ := lastThrown_eq_some hlast
  rw [List.inj_on_of_nodup_map hnodup ha' ha hname', hthrown] at hthrown'
  rw [hlast, hthrown']

/-- The attempts over these senders, in order: each one calls the sender with the bytes, in the
world that the attempts before it left, and records the error that it threw. -/
inductive Sends (framed : Bytes) (world : W) :
    List (PathSender ID W Err × ℕ) → List (Attempt ID Err) → W → Prop where
  | nil : Sends framed world [] [] world
  | snoc {paths : List (PathSender ID W Err × ℕ)} {attempts : List (Attempt ID Err)} {w w' : W}
      {path : PathSender ID W Err} {i : ℕ} {thrown : Option Err}
      (before : Sends framed world paths attempts w) (hsend : path.send framed w = (thrown, w')) :
      Sends framed world (paths ++ [(path, i)]) (attempts ++ [⟨i, path.name, thrown⟩]) w'

/-- **What the loop does**: one attempt for every sender whose name is selected, in order, and for
each name the last error. -/
lemma foldl_sendOver (framed : Bytes) (selected : List ID) (s : Sending ID W Err)
    (paths : List (PathSender ID W Err × ℕ)) :
    ∃ attempts : List (Attempt ID Err),
      (paths.foldl (sendOver framed selected) s).calls
        = s.calls ++ attempts.map (fun a => .send a framed) ∧
      attempts.map (fun a => (a.path, a.name)) = selectedSenders selected paths ∧
      Sends framed s.world (paths.filter fun path => path.1.name ∈ selected) attempts
        (paths.foldl (sendOver framed selected) s).world ∧
      ∀ name, (paths.foldl (sendOver framed selected) s).failures name
        = ((lastThrown name attempts).map Failure.thrown).or (s.failures name) := by
  induction paths using List.reverseRecOn with
  | nil => exact ⟨[], by simp, rfl, .nil, fun name => rfl⟩
  | append_singleton paths path ih =>
    obtain ⟨attempts, hcalls, hsenders, hsends, hfailures⟩ := ih
    rw [List.foldl_append, List.foldl_cons, List.foldl_nil]
    generalize paths.foldl (sendOver framed selected) s = s' at hcalls hsends hfailures
    by_cases hname : path.1.name ∈ selected
    · rcases hsend : path.1.send framed s'.world with ⟨thrown, world⟩
      refine ⟨attempts ++ [⟨path.2, path.1.name, thrown⟩], ?_, ?_, ?_, ?_⟩
      · simp [sendOver, hname, hsend, hcalls]
      · rw [List.map_append, hsenders]
        simp [selectedSenders, List.filter_append, hname]
      · have hfilter : (paths ++ [path]).filter (fun path => path.1.name ∈ selected)
            = paths.filter (fun path => path.1.name ∈ selected) ++ [(path.1, path.2)] := by
          simp [List.filter_append, hname]
        have hworld : (sendOver framed selected s' path).world = world := by
          simp [sendOver, hname, hsend]
        rw [hfilter, hworld]
        exact hsends.snoc hsend
      · intro name
        rw [lastThrown_concat]
        cases thrown with
        | none => simp [sendOver, hname, hsend, hfailures]
        | some error =>
          simp only [sendOver, hname, if_true, hsend, Option.some_or]
          by_cases heq : path.1.name = name
          · subst heq
            simp
          · rw [Function.update_of_ne (Ne.symm heq), hfailures, if_neg heq]
    · refine ⟨attempts, ?_, ?_, ?_, ?_⟩
      · rw [sendOver, if_neg hname, hcalls]
      · rw [hsenders]
        simp [selectedSenders, List.filter_append, hname]
      · have hfilter : (paths ++ [path]).filter (fun path => path.1.name ∈ selected)
            = paths.filter (fun path => path.1.name ∈ selected) := by
          simp [List.filter_append, hname]
        rw [hfilter, sendOver, if_neg hname]
        exact hsends
      · intro name
        rw [sendOver, if_neg hname, hfailures]

/-! ## The ids without a sender -/

lemma mem_missingSenders {selected senderNames : List ID} {id : ID} :
    id ∈ missingSenders selected senderNames ↔ id ∈ selected ∧ id ∉ senderNames := by
  simp [missingSenders]

lemma foldl_missing (failures : Failures ID Err) (missing : List ID) (name : ID) :
    missing.foldl (fun failures missing =>
        Function.update failures missing (some (.noSenderForSelectedPath missing))) failures name
      = if name ∈ missing then some (.noSenderForSelectedPath name) else failures name := by
  induction missing using List.reverseRecOn with
  | nil => simp
  | append_singleton missing id ih =>
    rw [List.foldl_append, List.foldl_cons, List.foldl_nil]
    by_cases heq : name = id
    · subst heq
      simp
    · rw [Function.update_of_ne heq, ih]
      simp [heq]

/-! ## The result -/

/-- The attempts and the failures of a packet that was framed as `framed`, which left the world in
the state `world`: one attempt for every sender whose name is selected, and a failure for every
sender that threw and every selected id without a sender.  The sends leave the world in the state
`world'`. -/
structure BestEffort (framed : Bytes) (selected : List ID) (paths : List (PathSender ID W Err))
    (world : W) (attempts : List (Attempt ID Err)) (failures : Failures ID Err) (world' : W) :
    Prop where
  /-- Each attempt is the call of its sender, with the framed bytes. -/
  sent : Sends framed world (paths.zipIdx.filter fun path => path.1.name ∈ selected) attempts world'
  attempted : attempts.map (fun a => (a.path, a.name)) = selectedSenders selected paths.zipIdx
  failed : ∀ name, (failures name).isSome = true ↔
    (∃ a ∈ attempts, a.name = name ∧ a.thrown.isSome = true) ∨
      (name ∈ selected ∧ ∀ path ∈ paths, path.name ≠ name)
  error : ∀ name failure, failures name = some failure →
    (∃ a ∈ attempts, ∃ error, a.name = name ∧ a.thrown = some error ∧ failure = .thrown error) ∨
      ((name ∈ selected ∧ ∀ path ∈ paths, path.name ≠ name) ∧
        failure = .noSenderForSelectedPath name)
  /-- If no two senders have the same name, then each one's own error is returned. -/
  own : (paths.map fun path => path.name).Nodup → ∀ a ∈ attempts, ∀ error,
    a.thrown = some error → failures a.name = some (.thrown error)

/-- The names of the attempts are those of senders. -/
lemma name_mem_of_attempt {selected : List ID} {paths : List (PathSender ID W Err)}
    {attempts : List (Attempt ID Err)}
    (h : attempts.map (fun a => (a.path, a.name)) = selectedSenders selected paths.zipIdx)
    {a : Attempt ID Err} (ha : a ∈ attempts) : ∃ path ∈ paths, path.name = a.name := by
  have hmem : (a.path, a.name) ∈ selectedSenders selected paths.zipIdx := by
    rw [← h]
    exact List.mem_map_of_mem ha
  obtain ⟨⟨path, i⟩, hpath, heq⟩ := List.mem_map.mp hmem
  have hzip := List.mem_of_mem_filter hpath
  exact ⟨path, List.fst_mem_of_mem_zipIdx hzip, congrArg Prod.snd heq⟩

/-- The names of the attempts are distinct if those of the senders are. -/
lemma nodup_names_of_attempts {selected : List ID} {paths : List (PathSender ID W Err)}
    {attempts : List (Attempt ID Err)}
    (h : attempts.map (fun a => (a.path, a.name)) = selectedSenders selected paths.zipIdx)
    (hnodup : (paths.map fun path => path.name).Nodup) :
    (attempts.map fun a => a.name).Nodup := by
  have hnames : attempts.map (fun a => a.name)
      = (paths.zipIdx.filter fun path => path.1.name ∈ selected).map fun path => path.1.name := by
    have := congrArg (List.map Prod.snd) h
    simpa [selectedSenders, Function.comp_def] using this
  have hzip : paths.zipIdx.map (fun path => path.1.name) = paths.map fun path => path.name := by
    conv_rhs => rw [← List.zipIdx_map_fst 0 paths, List.map_map]
    rfl
  rw [hnames]
  refine List.Nodup.sublist (List.Sublist.map _ List.filter_sublist) ?_
  rw [hzip]
  exact hnodup

lemma DualPathRelay.sendOutbound_ok (relay : DualPathRelay ID W Err) {packet framed : Bytes}
    (pathStates : List (PathInfo ID)) (primaryUnstable : Bool) {world world' : W}
    (hframed : relay.core.outbound packet world = (.ok framed, world')) :
    ∃ attempts failures world'',
      relay.sendOutbound packet pathStates primaryUnstable world
        = (.ok failures, .outbound packet :: attempts.map (fun a => .send a framed), world'') ∧
      BestEffort framed (relay.policy.sendPaths pathStates primaryUnstable) relay.paths world'
        attempts failures world'' := by
  obtain ⟨attempts, hcalls, hsenders, hsends, hfailures⟩ := foldl_sendOver framed
    (relay.policy.sendPaths pathStates primaryUnstable)
    (⟨fun _ => none, [.outbound packet], world'⟩ : Sending ID W Err) relay.paths.zipIdx
  rw [DualPathRelay.sendOutbound, hframed]
  simp only
  rw [hcalls]
  generalize relay.policy.sendPaths pathStates primaryUnstable = selected at *
  have hmissing : ∀ name, name ∈ missingSenders selected (relay.paths.map fun path => path.name) ↔
      name ∈ selected ∧ ∀ path ∈ relay.paths, path.name ≠ name := by
    intro name
    simp [mem_missingSenders]
  refine ⟨attempts, _, _, rfl, hsends, hsenders, ?_, ?_, ?_⟩
  · intro name
    rw [foldl_missing, ← hmissing, ← lastThrown_isSome_iff]
    by_cases hname : name ∈ missingSenders selected (relay.paths.map fun path => path.name)
    · simp [hname]
    · simp [hname, hfailures]
  · intro name failure h
    rw [foldl_missing] at h
    by_cases hname : name ∈ missingSenders selected (relay.paths.map fun path => path.name)
    · rw [if_pos hname, Option.some_inj] at h
      exact Or.inr ⟨(hmissing name).mp hname, h.symm⟩
    · rw [if_neg hname, hfailures, Option.or_none] at h
      obtain ⟨error, herror, rfl⟩ := Option.map_eq_some_iff.mp h
      obtain ⟨a, ha, haname, hthrown⟩ := lastThrown_eq_some herror
      exact Or.inl ⟨a, ha, error, haname, hthrown, rfl⟩
  · intro hnodup a ha error hthrown
    have hname : a.name ∉ missingSenders selected (relay.paths.map fun path => path.name) := by
      intro hmem
      obtain ⟨path, hpath, heq⟩ := name_mem_of_attempt hsenders ha
      exact ((hmissing a.name).mp hmem).2 path hpath heq
    rw [foldl_missing, if_neg hname, hfailures,
      lastThrown_of_nodup (nodup_names_of_attempts hsenders hnodup) ha hthrown]
    rfl

/-- **The policy never selects a path that is down, and the relay sends best-effort.**  For every
policy and all states of the paths: only paths that are up are selected, and at least one if there
is one.  Failover selects among what smart selects, and smart among what duplicate selects; auto is
duplicate if no path that is up is metered, and smart otherwise.  And for every core and all
senders, a packet is framed once and then attempted once over every sender whose name is selected
and over no other, with the same bytes, whichever of the sends throw: each attempt is a call of its
sender in the world that framing and the attempts before left.  The failures are those of the
senders that threw and of the selected ids without a sender. -/
theorem selection_and_best_effort (policy : PathPolicy ID) (pathStates : List (PathInfo ID))
    (primaryUnstable : Bool) :
    (∀ id ∈ policy.sendPaths pathStates primaryUnstable,
      ∃ p ∈ pathStates, p.up = true ∧ p.id = id) ∧
    (policy.sendPaths pathStates primaryUnstable ≠ [] ↔ ∃ p ∈ pathStates, p.up = true) ∧
    { policy with mode := .failover }.sendPaths pathStates primaryUnstable
      ⊆ { policy with mode := .smart }.sendPaths pathStates primaryUnstable ∧
    { policy with mode := .smart }.sendPaths pathStates primaryUnstable
      ⊆ { policy with mode := .duplicate }.sendPaths pathStates primaryUnstable ∧
    { policy with mode := .auto }.sendPaths pathStates primaryUnstable
      = (if ∀ p ∈ pathStates, p.up = true → p.metered = false
        then { policy with mode := .duplicate }.sendPaths pathStates primaryUnstable
        else { policy with mode := .smart }.sendPaths pathStates primaryUnstable) ∧
    ∀ (core : TransportCore W Err) (paths : List (PathSender ID W Err)) (packet : Bytes)
      (world world' : W),
      (∀ framed, core.outbound packet world = (.ok framed, world') →
        ∃ attempts failures world'',
          (DualPathRelay.mk core paths policy).sendOutbound packet pathStates primaryUnstable world
            = (.ok failures, .outbound packet :: attempts.map (fun a => .send a framed), world'') ∧
          BestEffort framed (policy.sendPaths pathStates primaryUnstable) paths world' attempts
            failures world'') ∧
      (∀ error, core.outbound packet world = (.error error, world') →
        (DualPathRelay.mk core paths policy).sendOutbound packet pathStates primaryUnstable world
          = (.error error, [.outbound packet], world')) := by
  refine ⟨?_, ?_, policy.failover_subset_smart pathStates primaryUnstable,
    policy.smart_subset_duplicate pathStates primaryUnstable,
    policy.sendPaths_auto pathStates primaryUnstable, ?_⟩
  · intro id hid
    exact (PathPolicy.mem_upIDs pathStates).mp
      (policy.sendPaths_subset_upIDs pathStates primaryUnstable hid)
  · rw [ne_eq, policy.sendPaths_eq_nil_iff]
    simp
  · intro core paths packet world world'
    constructor
    · intro framed hframed
      exact DualPathRelay.sendOutbound_ok ⟨core, paths, policy⟩ pathStates primaryUnstable hframed
    · intro error herror
      rw [DualPathRelay.sendOutbound, herror]

/-- Three paths that are up, of which the last has no sender. -/
def samplePathStates : List (PathInfo ℕ) := [⟨1, true, false⟩, ⟨2, true, true⟩, ⟨3, true, false⟩]

/-- A core that frames by a byte in front. -/
def sampleCore : TransportCore (List (ℕ × Bytes)) String where
  outbound packet world := (.ok (7 :: packet), world)

/-- A sender that adds its datagram to those that were sent before, and throws if it is the first to
send. -/
def sampleSender (name : ℕ) : PathSender ℕ (List (ℕ × Bytes)) String where
  name := name
  send datagram world :=
    (if world = [] then some "not connected" else none, world ++ [(name, datagram)])

/-- In duplicate mode, the first of two selected senders throws, one sender is not selected, and one
selected path has no sender: the bytes are sent over both, and two failures are returned. -/
theorem selection_and_best_effort_first_throws :
    ∃ (attempts : List (Attempt ℕ String)) (failures : Failures ℕ String)
      (world : List (ℕ × Bytes)),
      (DualPathRelay.mk sampleCore [sampleSender 1, sampleSender 4, sampleSender 2]
          ⟨.duplicate, none⟩).sendOutbound [1, 2] samplePathStates false []
        = (.ok failures, .outbound [1, 2] :: attempts.map (fun a => .send a [7, 1, 2]), world) ∧
      world = [(1, [7, 1, 2]), (2, [7, 1, 2])] ∧
      attempts.map (fun a => (a.path, a.name)) = [(0, 1), (2, 2)] ∧
      failures 1 = some (.thrown "not connected") ∧ failures 2 = none ∧
      failures 3 = some (.noSenderForSelectedPath 3) := by
  obtain ⟨attempts, failures, world, hsent, hbest⟩ :=
    ((selection_and_best_effort ⟨.duplicate, none⟩ samplePathStates false).2.2.2.2.2 sampleCore
      [sampleSender 1, sampleSender 4, sampleSender 2] [1, 2] [] []).1 [7, 1, 2] rfl
  have hworld := congrArg (fun r => r.2.2) hsent
  have hfailures := Except.ok.inj (congrArg Prod.fst hsent)
  exact ⟨attempts, failures, world, hsent, hworld.symm, hbest.attempted,
    (congrFun hfailures 1).symm, (congrFun hfailures 2).symm, (congrFun hfailures 3).symm⟩

end Macos
end Gemina
