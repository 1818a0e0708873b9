/-
# Which interface is Wi-Fi

On macOS the client asks `networksetup -listallhardwareports` which interface belongs to a Wi-Fi
port (`parseNetworkSetupHardwarePorts` of `internal/platform/darwin/live_evidence.go`).  The output
is read line by line: a port starts with its name, its device follows, and a blank line ends it.

The lines come from a `bufio.Scanner`, which stops at a line that does not fit into its buffer.  The
parser does not ask it for its error.

Lower case and the classes of characters are those of Unicode.  They are a parameter, of which only
the behaviour on ASCII strings is known.
-/
import Gemina.Strings

namespace Gemina
namespace Darwin

/-- `EvidenceSource`. -/
inductive EvidenceSource where
  | unknown
  | bsdNetworkState
  | systemConfiguration
  | networkFramework
  | ioRegistry
deriving DecidableEq, Repr

/-- `Evidence`. -/
structure Evidence where
  source : EvidenceSource
  key : Bytes
  value : Bytes
deriving DecidableEq

/-- `InterfaceEvidenceRecord`. -/
structure InterfaceEvidenceRecord where
  bsdName : Bytes
  evidence : List Evidence
deriving DecidableEq

/-- `EvidenceKeyInterfaceType`. -/
def evidenceKeyInterfaceType : Bytes := ascii "interface-type"

/-- `EvidenceValueWiFi`. -/
def evidenceValueWiFi : Bytes := ascii "wifi"

/-! ## Tokens -/

/-- What Go knows of Unicode. -/
structure Unicode where
  /-- `strings.ToLower`. -/
  toLower : Bytes → Bytes
  /-- The characters of a string for which `unicode.IsLetter` or `unicode.IsDigit` holds. -/
  lettersAndDigits : Bytes → Bytes

/-- Lower case of an ASCII character. -/
def lowerASCII (c : UInt8) : UInt8 := if 65 ≤ c ∧ c ≤ 90 then c + 32 else c

/-- A letter or digit of ASCII. -/
def isAlnumASCII (c : UInt8) : Bool :=
  (48 ≤ c ∧ c ≤ 57) ∨ (65 ≤ c ∧ c ≤ 90) ∨ (97 ≤ c ∧ c ≤ 122)

/-- The behaviour on ASCII strings. -/
structure Unicode.Lawful (U : Unicode) : Prop where
  toLower : ∀ s : Bytes, (∀ c ∈ s, c < 128) → U.toLower s = s.map lowerASCII
  lettersAndDigits : ∀ s : Bytes, (∀ c ∈ s, c < 128) → U.lettersAndDigits s = s.filter isAlnumASCII

/-- `normaliseEvidenceToken`. -/
def normaliseEvidenceToken (U : Unicode) (value : Bytes) : Bytes :=
  U.lettersAndDigits (U.toLower (trimSpace value))

/-- `matchesEvidenceToken`. -/
def matchesEvidenceToken (U : Unicode) (value : Bytes) (canonical : List Bytes) : Bool :=
  canonical.any fun candidate => normaliseEvidenceToken U value = normaliseEvidenceToken U candidate

/-- `isWiFiEvidenceValue`. -/
def isWiFiEvidenceValue (U : Unicode) (value : Bytes) : Bool :=
  matchesEvidenceToken U value [evidenceValueWiFi, ascii "ieee80211", ascii "airport"]

/-- `isWiFiHardwarePort`. -/
def isWiFiHardwarePort (U : Unicode) (value : Bytes) : Bool := isWiFiEvidenceValue U value

/-! ## The parser -/

/-- The evidence that an interface is Wi-Fi. -/
def wifiRecord (bsdName : Bytes) : InterfaceEvidenceRecord :=
  ⟨bsdName, [⟨.systemConfiguration, evidenceKeyInterfaceType, evidenceValueWiFi⟩]⟩

/-- The variables of `parseNetworkSetupHardwarePorts`. -/
structure PortScan where
  records : List InterfaceEvidenceRecord := []
  hardwarePort : Bytes := []
  bsdName : Bytes := []
deriving DecidableEq

/-- `flush`. -/
def PortScan.flush (U : Unicode) (s : PortScan) : PortScan :=
  { records :=
      if s.bsdName ≠ [] ∧ isWiFiHardwarePort U s.hardwarePort then
        s.records ++ [wifiRecord s.bsdName]
      else s.records
    hardwarePort := []
    bsdName := [] }

/-- One turn of the loop over the lines. -/
def PortScan.line (U : Unicode) (s : PortScan) (text : Bytes) : PortScan :=
  let line := trimSpace text
  if line = [] then s.flush U
  else match cutPrefix line (ascii "Hardware Port:") with
    | some value => { s.flush U with hardwarePort := trimSpace value }
    | none =>
      match cutPrefix line (ascii "Device:") with
      | some value => { s with bsdName := trimSpace value }
      | none => s

/-- `parseNetworkSetupHardwarePorts`. -/
def parseNetworkSetupHardwarePorts (U : Unicode) (output : Bytes) : List InterfaceEvidenceRecord :=
  (((scanLines output).1.foldl (PortScan.line U) {}).flush U).records

/-! ## The lines of a Wi-Fi port -/

/-- The line with the name of a Wi-Fi port. -/
def portLine : Bytes := ascii "Hardware Port: Wi-Fi"

/-- The line with its device. -/
def deviceLine (name : Bytes) : Bytes := ascii "Device:" ++ 32 :: name

variable {U : Unicode} {name out rest : Bytes} {s : PortScan}

lemma isWiFiHardwarePort_wifi (hU : U.Lawful) : isWiFiHardwarePort U (ascii "Wi-Fi") = true := by
  have hport : normaliseEvidenceToken U (ascii "Wi-Fi") = ascii "wifi" := by
    rw [normaliseEvidenceToken, show trimSpace (ascii "Wi-Fi") = ascii "Wi-Fi" by decide,
      hU.toLower _ (by decide +kernel), hU.lettersAndDigits _ (by decide +kernel)]
    decide
  have hwifi : normaliseEvidenceToken U evidenceValueWiFi = ascii "wifi" := by
    rw [normaliseEvidenceToken, show trimSpace evidenceValueWiFi = ascii "wifi" by decide,
      hU.toLower _ (by decide +kernel), hU.lettersAndDigits _ (by decide +kernel)]
    decide
  simp [isWiFiHardwarePort, isWiFiEvidenceValue, matchesEvidenceToken, hport, hwifi]

lemma flush_flush : (s.flush U).flush U = s.flush U := by
  simp [PortScan.flush]

lemma line_port :
    s.line U (dropCR portLine) = { s.flush U with hardwarePort := ascii "Wi-Fi" } := by
  have htrim : trimSpace (dropCR portLine) = portLine := by decide
  have hcut : cutPrefix portLine (ascii "Hardware Port:") = some (ascii " Wi-Fi") := by decide
  have hvalue : trimSpace (ascii " Wi-Fi") = ascii "Wi-Fi" := by decide
  simp only [PortScan.line, htrim, hcut, hvalue]
  rfl

lemma dropCR_deviceLine (hne : name ≠ []) (htrim : trimSpace name = name) :
    dropCR (deviceLine name) = deviceLine name := by
  rw [dropCR, if_neg]
  intro hlast
  rw [deviceLine, List.getLast?_append_cons, List.getLast?_cons_of_ne_nil hne] at hlast
  obtain ⟨front, hfront⟩ := List.getLast?_eq_some_iff.mp hlast
  exact (trimSpace_eq_self_iff.mp htrim).2 [13] (by decide) ⟨front, hfront.symm⟩

lemma line_device (hne : name ≠ []) (htrim : trimSpace name = name) :
    s.line U (dropCR (deviceLine name)) = { s with bsdName := name } := by
  have hfront : ∀ c ∈ whiteSpace, ¬ c <+: ascii "Device:" ++ 32 :: name := by
    have hhead : ∀ c ∈ whiteSpace, ∃ a l, c = a :: l ∧ a ≠ 68 := by simp [whiteSpace]
    rintro c hc ⟨t, ht⟩
    obtain ⟨a, l, rfl, ha⟩ := hhead c hc
    exact ha (List.cons.inj ht).1
  have hport : cutPrefix (deviceLine name) (ascii "Hardware Port:") = none := rfl
  have hdevice : cutPrefix (deviceLine name) (ascii "Device:") = some (32 :: name) := rfl
  rw [dropCR_deviceLine hne htrim]
  simp only [PortScan.line, show trimSpace (deviceLine name) = deviceLine name from
    trimSpace_append hne htrim hfront, hport, hdevice, trimSpace_cons_space htrim]
  rfl

/-! ## The result -/

/-- A line that is too long hides everything behind it. -/
lemma parse_append_of_long (h : ¬ ShortLines out) :
    parseNetworkSetupHardwarePorts U (out ++ rest) = parseNetworkSetupHardwarePorts U out := by
  rw [← scanLines_ended_iff, Bool.not_eq_true] at h
  rw [parseNetworkSetupHardwarePorts, parseNetworkSetupHardwarePorts, scanLines, scanLines,
    Lines.scan, Lines.scanFrom_append_of_stopped h]
  rfl

/-- The lines of the output, a blank line, and the lines behind it. -/
lemma scanLines_append (h : ShortLines out) :
    ∃ blank, (blank = [] ∨ blank = [[]]) ∧
      (scanLines (out ++ 10 :: 10 :: rest)).1
        = (scanLines out).1 ++ blank ++ [] :: (scanLines rest).1 := by
  have hended := (scanLines_ended_iff out).mpr h
  obtain ⟨blank, hblank, heq⟩ := @Lines.scanFrom_append_of_ended _ _ 10 maxScanTokenSize [] out
    (10 :: rest) hended
  have hline := @Lines.scan_line _ _ 10 maxScanTokenSize rest [] (by simp) (by decide)
  refine ⟨blank, hblank, ?_⟩
  rw [scanLines, Lines.scan, heq]
  rw [List.nil_append] at hline
  rw [hline, List.map_append, List.map_append, List.map_cons]
  have hmap : blank.map dropCR = blank := by
    rcases hblank with rfl | rfl
    · rfl
    · rfl
  rw [hmap]
  rfl

/-- The lines of a Wi-Fi port at the end of an output, with or without the end of the last line. -/
lemma scanLines_port (hnl : 10 ∉ name) (hlen : name.length < 1000) {tail : Bytes}
    (htail : tail = [] ∨ tail = [10]) :
    (scanLines (portLine ++ 10 :: (deviceLine name ++ tail))).1
      = [dropCR portLine, dropCR (deviceLine name)] := by
  have hdevice : 10 ∉ deviceLine name := by
    rw [deviceLine, List.mem_append, List.mem_cons]
    rintro (h | h | h)
    · revert h
      decide
    · cases h
    · exact hnl h
  have hshort : (deviceLine name).length < maxScanTokenSize := by
    have hfront : (ascii "Device:").length = 7 := by decide
    rw [deviceLine, List.length_append, hfront, List.length_cons, maxScanTokenSize]
    omega
  have hlast :
      (Lines.scan 10 maxScanTokenSize (deviceLine name ++ tail)).1 = [deviceLine name] := by
    rcases htail with rfl | rfl
    · rw [List.append_nil, Lines.scan_last hdevice hshort, if_neg (by simp [deviceLine])]
    · rw [Lines.scan_line hdevice hshort]
      rfl
  rw [scanLines, Lines.scan_line (by decide) (by decide)]
  simp only [hlast, List.map_cons, List.map_nil]

/-- **A Wi-Fi port behind an output whose lines fit is found.** -/
lemma parse_append_port (hU : U.Lawful) (hne : name ≠ []) (hnl : 10 ∉ name)
    (htrim : trimSpace name = name) (hlen : name.length < 1000) {tail : Bytes}
    (htail : tail = [] ∨ tail = [10]) (h : ShortLines out) :
    parseNetworkSetupHardwarePorts U
        (out ++ 10 :: 10 :: (portLine ++ 10 :: (deviceLine name ++ tail)))
      = parseNetworkSetupHardwarePorts U out ++ [wifiRecord name] := by
  obtain ⟨blank, hblank, hlines⟩ := @scanLines_append out
    (portLine ++ 10 :: (deviceLine name ++ tail)) h
  rw [parseNetworkSetupHardwarePorts, parseNetworkSetupHardwarePorts, hlines,
    scanLines_port hnl hlen htail]
  simp only [List.foldl_append, List.foldl_cons, List.foldl_nil]
  generalize (scanLines out).1.foldl (PortScan.line U) {} = s
  have hblankLines : (blank.foldl (PortScan.line U) s).line U [] = s.flush U := by
    rcases hblank with rfl | rfl
    · rfl
    · exact flush_flush
  rw [hblankLines, line_port, flush_flush, line_device hne htrim]
  simp [PortScan.flush, hne, isWiFiHardwarePort_wifi hU]

/-- **When a Wi-Fi port cannot be hidden.**  For every output and every name of a device: a Wi-Fi
port behind a blank line at the end is found, after the records of the output, if and only if every
line of the output fits into the scanner's buffer. -/
theorem wifi_port_found_iff (hU : U.Lawful) (out : Bytes) (hne : name ≠ []) (hnl : 10 ∉ name)
    (htrim : trimSpace name = name) (hlen : name.length < 1000) {tail : Bytes}
    (htail : tail = [] ∨ tail = [10]) :
    parseNetworkSetupHardwarePorts U
        (out ++ 10 :: 10 :: (portLine ++ 10 :: (deviceLine name ++ tail)))
      = parseNetworkSetupHardwarePorts U out ++ [wifiRecord name] ↔ ShortLines out := by
  constructor
  · intro h
    by_contra hlong
    rw [parse_append_of_long hlong] at h
    have := congrArg List.length h
    rw [List.length_append, List.length_singleton] at this
    omega
  · exact parse_append_port hU hne hnl htrim hlen htail

/-! ## An instance -/

/-- Unicode for ASCII strings only. -/
def asciiUnicode : Unicode where
  toLower s := s.map lowerASCII
  lettersAndDigits s := s.filter isAlnumASCII

lemma asciiUnicode_lawful : asciiUnicode.Lawful := ⟨fun _ _ => rfl, fun _ _ => rfl⟩

/-- An output with a Wi-Fi port of the old name and a port that is not Wi-Fi. -/
def sampleOutput : Bytes :=
  ascii "\nHardware Port: AirPort\nDevice: en1\nEthernet Address: 00:00:00:00:00:01\n" ++
    ascii "\nHardware Port: Ethernet\nDevice: en5\nEthernet Address: 00:00:00:00:00:05\n"

/-- A port behind two others, of which one is Wi-Fi too. -/
theorem wifi_port_found_iff_third :
    parseNetworkSetupHardwarePorts asciiUnicode
        (sampleOutput ++ 10 :: 10 :: (portLine ++ 10 :: (deviceLine (ascii "en0") ++ [10])))
      = [wifiRecord (ascii "en1"), wifiRecord (ascii "en0")] := by
  have hshort : ShortLines sampleOutput := by
    rw [ShortLines]
    decide +kernel
  have hne : ascii "en0" ≠ [] := by decide
  have hfound := (wifi_port_found_iff asciiUnicode_lawful sampleOutput hne (by decide) (by decide)
    (by decide) (Or.inr rfl)).mpr hshort
  have hbefore : parseNetworkSetupHardwarePorts asciiUnicode sampleOutput
      = [wifiRecord (ascii "en1")] := by
    decide +kernel
  rw [hfound, hbefore]
  rfl

/-- A line of 64 KiB hides the port behind it. -/
theorem long_line_hides_port :
    parseNetworkSetupHardwarePorts asciiUnicode
        (List.replicate 65536 97 ++
          10 :: 10 :: (portLine ++ 10 :: (deviceLine (ascii "en0") ++ [])))
      ≠ parseNetworkSetupHardwarePorts asciiUnicode (List.replicate 65536 97)
        ++ [wifiRecord (ascii "en0")] := by
  have hlong : ¬ ShortLines (List.replicate 65536 97) := by
    intro hshort
    have hline := hshort (List.replicate 65536 97) (by
      rw [List.splitOn_eq_singleton (by rw [List.mem_replicate]; decide)]
      exact List.mem_singleton_self _)
    rw [List.length_replicate, maxScanTokenSize] at hline
    omega
  rw [parse_append_of_long hlong]
  intro h
  have := congrArg List.length h
  rw [List.length_append, List.length_singleton] at this
  omega

end Darwin
end Gemina
