/-
# The phone on the USB bus

The USB layer of the uplink (`rndis_usb.c`) and the exchange of frames over it (`exchange` of
`rndis_uplink.c`).  The bus and the device on it are arbitrary: which devices there are, what the
phone answers, how much of a transfer succeeds.  What was sent and received is recorded in the
order in which it happened.

As before, a read outside of what was received is `none`, and so is the undefined behaviour of
`rndis_usb_open` when the list of devices cannot be read.
-/
import Gemina.Rndis.Requests

namespace Gemina
namespace Rndis

/-! ## The bus -/

/-- An interface of a device, in its first alternate setting. -/
structure Interface where
  cls : UInt8
  number : UInt8
  endpoints : List UInt8
deriving DecidableEq

/-- A device on the bus: the interfaces of its active configuration, if it can be read, and
whether the device can be opened. -/
structure UsbDevice where
  config : Option (List Interface)
  opens : Bool

/-- The bus and the phone as `libusb` shows them.  The state of the phone is of type `δ`. -/
structure Bus (δ : Type) where
  init : Bool
  /-- What `libusb_get_device_list` gives: an error, or the devices. -/
  devices : Option (List UsbDevice)
  claim : ℕ → UInt8 → Bool
  /-- A control transfer to the given interface: the number of bytes, or an error. -/
  controlOut : δ → UInt8 → Bytes → ℤ × δ
  /-- A control transfer from the given interface into a buffer: an error, or what was read. -/
  controlIn : δ → UInt8 → ℕ → (Option Bytes) × δ
  /-- A bulk transfer to the given endpoint: the return code and the number of bytes. -/
  bulkOut : δ → UInt8 → Bytes → (ℤ × ℤ) × δ
  /-- A bulk transfer from the given endpoint into a buffer: an error, or what was read. -/
  bulkIn : δ → UInt8 → ℕ → (Option Bytes) × δ

/-- Nothing is read that does not fit into the buffer. -/
structure Bus.Lawful {δ : Type} (B : Bus δ) : Prop where
  controlIn : ∀ d ifc cap data d', B.controlIn d ifc cap = (some data, d') → data.length ≤ cap
  bulkIn : ∀ d ep cap data d', B.bulkIn d ep cap = (some data, d') → data.length ≤ cap

/-- `rndis_usb_t`; the handle is the place of the device on the bus. -/
structure Usb where
  ctx : Bool
  h : Option ℕ
  ctrlIf : UInt8
  dataIf : UInt8
  epIn : UInt8
  epOut : UInt8

/-- The structure after `memset`. -/
def Usb.zero : Usb := ⟨false, none, 0, 0, 0, 0⟩

/-- What the loop over the interfaces of a device has found. -/
structure Found where
  control : Option UInt8
  data : Option UInt8
  epIn : UInt8
  epOut : UInt8

/-- The loop over the endpoints of a data interface. -/
def Found.endpoint (s : Found) (a : UInt8) : Found :=
  if a &&& 0x80 ≠ 0 then { s with epIn := a } else { s with epOut := a }

/-- The body of the loop over the interfaces. -/
def Found.interface (s : Found) (id : Interface) : Found :=
  let s := if id.cls = 0xE0 then { s with control := some id.number } else s
  if id.cls = 0x0A then
    id.endpoints.foldl Found.endpoint { s with data := some id.number }
  else s

/-- The RNDIS function of a device, if it has one that is complete. -/
def UsbDevice.function (d : UsbDevice) : Option (UInt8 × UInt8 × UInt8 × UInt8) := do
  let cfg ← d.config
  let s := cfg.foldl Found.interface ⟨none, none, 0, 0⟩
  let control ← s.control
  let data ← s.data
  if s.epIn ≠ 0 ∧ s.epOut ≠ 0 then return (control, data, s.epIn, s.epOut) else none

/-- The loop over the devices, from the `i`th on, until one has been opened. -/
def openFirst (u : Usb) (i : ℕ) : List UsbDevice → Usb
  | [] => u
  | d :: ds =>
    match d.function with
    | some (control, data, epIn, epOut) =>
      if d.opens then ⟨u.ctx, some i, control, data, epIn, epOut⟩ else openFirst u (i + 1) ds
    | none => openFirst u (i + 1) ds

/-- `rndis_usb_close`. -/
def usbClose (u : Usb) : Usb := { u with h := none, ctx := false }

variable {δ : Type}

/-- `rndis_usb_open`: the return code, and the structure. -/
def usbOpen (B : Bus δ) : Option (ℤ × Usb) :=
  let u := Usb.zero
  if !B.init then some (-1, u)
  else match B.devices with
    | none => none -- the loop is skipped, and the uninitialised `list` is freed
    | some devices =>
      let u := openFirst { u with ctx := true } 0 devices
      match u.h with
      | none => some (-1, { u with ctx := false })
      | some i =>
        if !B.claim i u.ctrlIf || !B.claim i u.dataIf then some (-1, usbClose u) else some (0, u)

/-! ## Commands -/

/-- `RNDIS_MSG_INIT`, `RNDIS_MSG_INIT_CMPLT`, `RNDIS_MSG_SET` and `RNDIS_MSG_SET_CMPLT`. -/
def msgInit : UInt32 := 0x00000002
def msgInitCmplt : UInt32 := 0x80000002
def msgSet : UInt32 := 0x00000005
def msgSetCmplt : UInt32 := 0x80000005

/-- `OID_GEN_CURRENT_PACKET_FILTER`. -/
def oidGenCurrentPacketFilter : UInt32 := 0x0001010E

/-- The filter of the uplink: directed, multicast and broadcast packets. -/
def packetFilter : UInt32 := 0x00000001 ||| 0x00000002 ||| 0x00000010

/-- `rndis_command`: an error, or the response. -/
def command (B : Bus δ) (u : Usb) (d : δ) (msg : Bytes) (respCap : ℕ) : Option Bytes × δ :=
  let (sent, d) := B.controlOut d u.ctrlIf msg
  if sent < 0 then (none, d) else B.controlIn d u.ctrlIf respCap

/-- Whether a response completes a command: at least 16 bytes, with the type and the status 0. -/
def completes (resp : Bytes) (type : UInt32) : Option Bool :=
  if resp.length < 16 then some false
  else do
    let t ← rd32 resp 0
    if t ≠ type then return false
    let status ← rd32 resp 12
    return status = 0

/-- The message of `rndis_usb_initialize`. -/
def initMsg : Bytes :=
  le32 msgInit ++ le32 24 ++ le32 1 ++ le32 1 ++ le32 0 ++ le32 0x4000

/-- The message of `rndis_usb_set_filter`. -/
def setMsg (filter : UInt32) : Bytes :=
  le32 msgSet ++ le32 32 ++ le32 2 ++ le32 oidGenCurrentPacketFilter ++ le32 4 ++ le32 20 ++
    le32 0 ++ le32 filter

/-- A command whose response must complete it: 0 or -1. -/
def runCommand (B : Bus δ) (u : Usb) (d : δ) (msg : Bytes) (type : UInt32) : Option (ℤ × δ) :=
  match command B u d msg 1025 with
  | (none, d) => some (-1, d)
  | (some resp, d) => do
    let done ← completes resp type
    return (if done then 0 else -1, d)

/-- `rndis_usb_initialize`. -/
def usbInitialize (B : Bus δ) (u : Usb) (d : δ) : Option (ℤ × δ) :=
  runCommand B u d initMsg msgInitCmplt

/-- `rndis_usb_set_filter`. -/
def usbSetFilter (B : Bus δ) (u : Usb) (d : δ) (filter : UInt32) : Option (ℤ × δ) :=
  runCommand B u d (setMsg filter) msgSetCmplt

/-! ## Frames -/

/-- What happened on the bulk endpoints. -/
inductive Event where
  | sent (frame : Bytes)
  | received (frame : Bytes)
deriving DecidableEq

/-- The phone, with the record of the frames. -/
structure Link (δ : Type) where
  dev : δ
  events : List Event

/-- `rndis_usb_send_frame`; `msg` is the uninitialised message buffer. -/
def usbSendFrame (B : Bus δ) (u : Usb) (l : Link δ) (msg frame : Bytes) (frameLen : ℤ) :
    ℤ × Link δ :=
  let w := wrapPacket frame frameLen msg 2048
  let total := w.1
  if total < 0 then (-1, l)
  else
    let ((rc, wrote), d) := B.bulkOut l.dev u.epOut (w.2.take total.toNat)
    (if rc = 0 ∧ wrote = total then 0 else -1,
      ⟨d, l.events ++ [.sent (frame.take frameLen.toNat)]⟩)

/-- `rndis_usb_recv_frame`, into a buffer of 2048 bytes: the length of the frame, 0 or -1, and the
frame, if it is set. -/
def usbRecvFrame (B : Bus δ) (u : Usb) (l : Link δ) : Option (ℤ × Option Bytes × Link δ) :=
  match B.bulkIn l.dev u.epIn 2048 with
  | (none, d) => some (-1, none, { l with dev := d })
  | (some buf, d) => do
    let (rl, pos) ← unwrapPacket buf buf.length
    match pos with
    | none => return (rl, none, { l with dev := d })
    | some pos =>
      let frame := (buf.drop pos).take rl.toNat
      return (rl, some frame, ⟨d, l.events ++ [.received frame]⟩)

/-! ## Exchanges -/

/-- `match_fn`: the result, and the context. -/
abbrev MatchFn (γ : Type) : Type := Bytes → ℤ → γ → Option (ℤ × γ)

variable {γ : Type}

/-- The inner loop of `exchange`: up to so many reads, until a frame matches. -/
def drain (B : Bus δ) (u : Usb) (mtch : MatchFn γ) : ℕ → Link δ → γ → Option (Bool × Link δ × γ)
  | 0, l, ctx => some (false, l, ctx)
  | r + 1, l, ctx => do
    let (rl, rxf, l) ← usbRecvFrame B u l
    match rxf with
    | none => drain B u mtch r l ctx
    | some f =>
      if 0 < rl then
        let (m, ctx) ← mtch f rl ctx
        if m ≠ 0 then return (true, l, ctx) else drain B u mtch r l ctx
      else drain B u mtch r l ctx

/-- `exchange`. -/
def exchange (B : Bus δ) (u : Usb) (msg tx : Bytes) (txLen : ℤ) (mtch : MatchFn γ) :
    ℕ → Link δ → γ → Option (ℤ × Link δ × γ)
  | 0, l, ctx => some (0, l, ctx)
  | attempts + 1, l, ctx =>
    let (rc, l) := usbSendFrame B u l msg tx txLen
    if rc ≠ 0 then some (-1, l, ctx)
    else do
      let (matched, l, ctx) ← drain B u mtch 16 l ctx
      if matched then return (1, l, ctx)
      else exchange B u msg tx txLen mtch attempts l ctx

/-! ## What an exchange can do -/

/-- The matching function reads inside the frame, whatever it is. -/
def MatchFn.Safe (mtch : MatchFn γ) : Prop :=
  ∀ f ctx, ∃ k ctx', mtch f f.length ctx = some (k, ctx')

def Event.isSent : Event → Bool
  | .sent _ => true
  | .received _ => false

/-- A read records the frame that it finds, which lies inside of what was read. -/
lemma usbRecvFrame_cases {B : Bus δ} (hB : B.Lawful) (u : Usb) (l : Link δ) :
    (∃ rl d, usbRecvFrame B u l = some (rl, none, ⟨d, l.events⟩)) ∨
    ∃ rl f d, usbRecvFrame B u l = some (rl, some f, ⟨d, l.events ++ [.received f]⟩) ∧
      (0 < rl → rl = f.length) := by
  rcases hin : B.bulkIn l.dev u.epIn 2048 with ⟨_ | buf, d⟩
  · exact Or.inl ⟨-1, d, by simp [usbRecvFrame, hin]⟩
  have hcap := hB.bulkIn _ _ _ _ _ hin
  obtain ⟨rl, pos, hunwrap, hbounds⟩ := @unwrapPacket_bounds buf (by simp [intMax]; omega)
  rcases pos with _ | pos
  · exact Or.inl ⟨rl, d, by simp [usbRecvFrame, hin, hunwrap]⟩
  · refine Or.inr ⟨rl, (buf.drop pos).take rl.toNat, d, by simp [usbRecvFrame, hin, hunwrap], ?_⟩
    intro hpos
    obtain ⟨dataOff, -, hframe, hfits⟩ := hbounds hpos
    obtain rfl := Option.some_inj.mp hframe
    rw [List.length_take, List.length_drop]
    omega

/-- What the reads after a send can do: they only receive, and the frame that matches is the last
one. -/
structure Drained (mtch : MatchFn γ) (r : ℕ) (matched : Bool) (ctx' : γ) (evs : List Event) :
    Prop where
  length_le : evs.length ≤ r
  none_sent : ∀ e ∈ evs, e.isSent = false
  last : matched = true → ∃ before f c k, evs = before ++ [.received f] ∧
    mtch f f.length c = some (k, ctx') ∧ k ≠ 0

/-- One more read before. -/
lemma Drained.cons {mtch : MatchFn γ} {r : ℕ} {matched : Bool} {ctx' : γ} {evs : List Event}
    (h : Drained mtch r matched ctx' evs) (f : Bytes) :
    Drained mtch (r + 1) matched ctx' (.received f :: evs) := by
  refine ⟨Nat.succ_le_succ h.length_le, ?_, fun hm => ?_⟩
  · rintro e (_ | ⟨_, he⟩)
    · rfl
    · exact h.none_sent e he
  · obtain ⟨before, g, c, k, rfl, hmatch, hk⟩ := h.last hm
    exact ⟨.received f :: before, g, c, k, rfl, hmatch, hk⟩

lemma Drained.mono {mtch : MatchFn γ} {r : ℕ} {matched : Bool} {ctx' : γ} {evs : List Event}
    (h : Drained mtch r matched ctx' evs) : Drained mtch (r + 1) matched ctx' evs :=
  ⟨h.length_le.trans (Nat.le_succ r), h.none_sent, h.last⟩

/-- **The reads** do not leave the buffers. -/
lemma drain_safe {B : Bus δ} (hB : B.Lawful) (u : Usb) {mtch : MatchFn γ} (hm : mtch.Safe) (r : ℕ)
    (l : Link δ) (ctx : γ) :
    ∃ matched d evs ctx', drain B u mtch r l ctx = some (matched, ⟨d, l.events ++ evs⟩, ctx') ∧
      Drained mtch r matched ctx' evs := by
  induction r generalizing l ctx with
  | zero => exact ⟨false, l.dev, [], ctx, by simp [drain], ⟨by simp, by simp, by simp⟩⟩
  | succ r ih =>
    rcases usbRecvFrame_cases hB u l with ⟨rl, d, hrecv⟩ | ⟨rl, f, d, hrecv, hlen⟩
    · obtain ⟨matched, d', evs, ctx', hdrain, hd⟩ := ih ⟨d, l.events⟩ ctx
      exact ⟨matched, d', evs, ctx', by simp [drain, hrecv, hdrain], hd.mono⟩
    · obtain ⟨matched, d', evs, ctx', hdrain, hd⟩ := ih ⟨d, l.events ++ [.received f]⟩ ctx
      by_cases hpos : 0 < rl
      · obtain ⟨k, ctx₁, hmatch⟩ := hm f ctx
        rw [← hlen hpos] at hmatch
        by_cases hk : k = 0
        · obtain ⟨matched₁, d₁, evs₁, ctx₂, hdrain₁, hd₁⟩ :=
            ih ⟨d, l.events ++ [.received f]⟩ ctx₁
          exact ⟨matched₁, d₁, .received f :: evs₁, ctx₂,
            by simp [drain, hrecv, hpos, hmatch, hk, hdrain₁], hd₁.cons f⟩
        · refine ⟨true, d, [.received f], ctx₁, by simp [drain, hrecv, hpos, hmatch, hk],
            ⟨by simp, by simp [Event.isSent], fun _ => ?_⟩⟩
          exact ⟨[], f, ctx, k, rfl, by rw [← hlen hpos, hmatch], hk⟩
      · exact ⟨matched, d', .received f :: evs, ctx', by simp [drain, hrecv, hpos, hdrain],
          hd.cons f⟩

/-- A send records the frame, unless the frame is too long for a message. -/
lemma usbSendFrame_cases (B : Bus δ) (u : Usb) (l : Link δ) (msg frame : Bytes) (frameLen : ℤ) :
    usbSendFrame B u l msg frame frameLen = (-1, l) ∨
      ∃ rc d, usbSendFrame B u l msg frame frameLen =
        (rc, ⟨d, l.events ++ [.sent (frame.take frameLen.toNat)]⟩) := by
  rw [usbSendFrame]
  split
  · exact Or.inl rfl
  · exact Or.inr ⟨_, _, rfl⟩

/-- What an exchange can do: it sends one frame some times and receives in between, and if it
succeeds, the frame that matches is the last one. -/
structure Exchanged (mtch : MatchFn γ) (tx : Bytes) (attempts : ℕ) (ret : ℤ) (ctx' : γ)
    (evs : List Event) : Prop where
  returned : ret = 1 ∨ ret = 0 ∨ ret = -1
  sends : ∀ f, .sent f ∈ evs → f = tx
  count_le : evs.countP Event.isSent ≤ attempts
  length_le : evs.length ≤ 17 * attempts
  last : ret = 1 → ∃ between f c k, evs = .sent tx :: between ++ [.received f] ∧
    mtch f f.length c = some (k, ctx') ∧ k ≠ 0

/-- **An exchange** does not leave the buffers. -/
lemma exchange_safe {B : Bus δ} (hB : B.Lawful) (u : Usb) {mtch : MatchFn γ} (hm : mtch.Safe)
    (msg tx : Bytes) (txLen : ℤ) (attempts : ℕ) (l : Link δ) (ctx : γ) :
    ∃ ret d evs ctx', exchange B u msg tx txLen mtch attempts l ctx =
        some (ret, ⟨d, l.events ++ evs⟩, ctx') ∧
      Exchanged mtch (tx.take txLen.toNat) attempts ret ctx' evs := by
  induction attempts generalizing l ctx with
  | zero =>
    exact ⟨0, l.dev, [], ctx, by simp [exchange],
      ⟨by simp, by simp, by simp, by simp, by simp⟩⟩
  | succ attempts ih =>
    rcases usbSendFrame_cases B u l msg tx txLen with hsend | ⟨rc, d, hsend⟩
    · exact ⟨-1, l.dev, [], ctx, by simp [exchange, hsend],
        ⟨by simp, by simp, by simp, by simp, by simp⟩⟩
    by_cases hrc : rc = 0
    swap
    · exact ⟨-1, d, [.sent (tx.take txLen.toNat)], ctx, by simp [exchange, hsend, hrc],
        ⟨by simp, by simp, by simp [Event.isSent], by simp; omega, by simp⟩⟩
    obtain ⟨matched, d₁, evs₁, ctx₁, hdrain, hd⟩ :=
      drain_safe hB u hm 16 ⟨d, l.events ++ [.sent (tx.take txLen.toNat)]⟩ ctx
    have hcount : evs₁.countP Event.isSent = 0 := by
      rw [List.countP_eq_zero]
      intro e he
      simp [hd.none_sent e he]
    have hnone : ∀ f, .sent f ∉ evs₁ := fun f hf => Bool.noConfusion (hd.none_sent _ hf)
    have hlen := hd.length_le
    cases matched with
    | true =>
      -- the frame matches: the exchange ends here
      refine ⟨1, d₁, .sent (tx.take txLen.toNat) :: evs₁, ctx₁,
        by simp [exchange, hsend, hrc, hdrain], Or.inl rfl, ?_, ?_, ?_, fun _ => ?_⟩
      · intro f hf
        rcases List.mem_cons.mp hf with heq | hf
        · exact Event.sent.inj heq
        · exact absurd hf (hnone f)
      · rw [List.countP_cons, hcount]
        simp [Event.isSent]
      · rw [List.length_cons]
        omega
      · obtain ⟨before, f, c, k, rfl, hmatch, hk⟩ := hd.last rfl
        exact ⟨before, f, c, k, rfl, hmatch, hk⟩
    | false =>
      obtain ⟨ret, d₂, evs₂, ctx₂, hexchange, hex⟩ :=
        ih ⟨d₁, l.events ++ .sent (tx.take txLen.toNat) :: evs₁⟩ ctx₁
      refine ⟨ret, d₂, .sent (tx.take txLen.toNat) :: (evs₁ ++ evs₂), ctx₂,
        by simp [exchange, hsend, hrc, hdrain, hexchange], hex.returned, ?_, ?_, ?_, fun hret => ?_⟩
      · intro f hf
        rcases List.mem_cons.mp hf with heq | hf
        · exact Event.sent.inj heq
        · rcases List.mem_append.mp hf with hf | hf
          · exact absurd hf (hnone f)
          · exact hex.sends f hf
      · have := hex.count_le
        rw [List.countP_cons, List.countP_append, hcount]
        simp [Event.isSent]
        omega
      · have := hex.length_le
        rw [List.length_cons, List.length_append]
        omega
      · obtain ⟨between, f, c, k, rfl, hmatch, hk⟩ := hex.last hret
        exact ⟨evs₁ ++ .sent (tx.take txLen.toNat) :: between, f, c, k, by simp, hmatch, hk⟩

end Rndis
end Gemina
