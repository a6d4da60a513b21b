import Homeflow.Bestway.Reader
import Homeflow.Lib.Replace

-- The diagnosis of the probe script: it shows what a controller sends, window by window.
namespace Homeflow.Bestway.Probe

section Redact

open Replace

def HEX_DIGITS : List Char :=
  ['0', '1', '2', '3', '4', '5', '6', '7', '8', '9', 'a', 'b', 'c', 'd', 'e', 'f']

def hexByte (byte : UInt8) : List Char :=
  [HEX_DIGITS.getD (byte.toNat / 16) '0', HEX_DIGITS.getD (byte.toNat % 16) '0']

-- Two digits for each byte, with a blank between them.
def hex (data : Bytes) : List Char := [' '].intercalate (data.map hexByte)

def blanked (count : Nat) : List Char := [' '].intercalate (List.replicate count ['x', 'x'])

def blankOut (text : List Char) (secret : Bytes) : List Char :=
  if secret = [] then text else replace (hex secret) (blanked secret.length) text

def redactHex (data : Bytes) (secrets : List Bytes) : List Char :=
  secrets.foldl blankOut (hex data)

example : redactHex [0x00, 0xAB, 0xCD, 0xAB] [[], [0xAB, 0xCD]] = "00 xx xx ab".toList := by decide

-- What is part of the data is part of its dump.
theorem hex_part {part data : Bytes} (h : part <:+: data) : hex part <:+: hex data :=
  intercalate_part (h.map hexByte)

theorem mem_hexByte {byte : UInt8} {char : Char} (h : char ∈ hexByte byte) :
    char ∈ HEX_DIGITS := by
  have hdigit (index : Nat) : HEX_DIGITS.getD index '0' ∈ HEX_DIGITS := by
    rw [List.getD_eq_getElem?_getD]
    cases hread : HEX_DIGITS[index]? with
    | none => exact List.mem_cons_self
    | some digit => exact List.mem_of_getElem? hread
  simp only [hexByte, List.mem_cons, List.not_mem_nil, or_false] at h
  rcases h with rfl | rfl
  · exact hdigit _
  · exact hdigit _

theorem mem_hex {data : Bytes} {char : Char} (h : char ∈ hex data) :
    char = ' ' ∨ char ∈ HEX_DIGITS := by
  rcases mem_intercalate h with hblank | ⟨cell, hcell, hchar⟩
  · exact .inl (List.mem_singleton.mp hblank)
  · obtain ⟨byte, -, rfl⟩ := List.mem_map.mp hcell
    exact .inr (mem_hexByte hchar)

theorem mem_blanked {count : Nat} {char : Char} (h : char ∈ blanked count) :
    char = ' ' ∨ char = 'x' := by
  rcases mem_intercalate h with hblank | ⟨cell, hcell, hchar⟩
  · exact .inl (List.mem_singleton.mp hblank)
  · obtain rfl := List.eq_of_mem_replicate hcell
    exact .inr (by simpa using hchar)

-- A dump begins with a digit and a blanked one with a cross, and neither has the other's.
theorem unlike_blanked {count : Nat} {data : Bytes} (hcount : 0 < count) (hdata : data ≠ []) :
    Unlike (blanked count) (hex data) := by
  obtain ⟨byte, rest, rfl⟩ := List.exists_cons_of_ne_nil hdata
  obtain ⟨count, rfl⟩ := Nat.exists_eq_add_one_of_ne_zero hcount.ne'
  obtain ⟨digit, digits, hdump, hdigit⟩ : ∃ digit digits,
      hex (byte :: rest) = digit :: digits ∧ digit ∈ HEX_DIGITS :=
    ⟨_, _, List.intercalate_cons_cons_left, mem_hexByte List.mem_cons_self⟩
  obtain ⟨crosses, hblanked⟩ : ∃ crosses, blanked (count + 1) = 'x' :: crosses :=
    ⟨_, List.intercalate_cons_cons_left⟩
  have hcross : 'x' ∉ HEX_DIGITS := by simp [HEX_DIGITS]
  have hblank : ' ' ∉ HEX_DIGITS := by simp [HEX_DIGITS]
  refine ⟨?_, ?_, hblanked ▸ List.cons_ne_nil _ _, hdump ▸ List.cons_ne_nil _ _⟩
  · rw [hblanked]
    rintro char ⟨rfl⟩ hmem
    rcases mem_hex hmem with hsame | hmem
    · cases hsame
    · exact hcross hmem
  · rw [hdump]
    rintro char ⟨rfl⟩ hmem
    rcases mem_blanked hmem with rfl | rfl
    · exact hblank hdigit
    · exact hcross hdigit

variable {secrets : List Bytes} {secret : Bytes} {text : List Char}

-- Blanking out one secret brings up no other, and after it the secret is gone.
theorem infix_of_infix_blankOut (hsecret : secret ≠ []) {other : Bytes}
    (h : hex secret <:+: blankOut text other) : hex secret <:+: text := by
  unfold blankOut at h
  split at h
  · exact h
  · rename_i hother
    have hcount := List.length_pos_iff.mpr hother
    exact (unlike_blanked hcount hsecret).infix_of_infix_replace
      (unlike_blanked hcount hother).word_ne_nil h

theorem not_infix_blankOut (hsecret : secret ≠ []) (text : List Char) :
    ¬hex secret <:+: blankOut text secret := by
  rw [blankOut, if_neg hsecret]
  exact (unlike_blanked (List.length_pos_iff.mpr hsecret) hsecret).not_infix_replace text

theorem infix_of_infix_foldl (hsecret : secret ≠ [])
    (h : hex secret <:+: secrets.foldl blankOut text) : hex secret <:+: text := by
  induction secrets generalizing text with
  | nil => exact h
  | cons other secrets ih => exact infix_of_infix_blankOut hsecret (ih h)

theorem not_infix_redactHex (h : secret ∈ secrets) (hsecret : secret ≠ []) (data : Bytes) :
    ¬hex secret <:+: redactHex data secrets := by
  obtain ⟨before, later, rfl⟩ := List.append_of_mem h
  rw [redactHex, List.foldl_append, List.foldl_cons]
  exact fun hoccurs => not_infix_blankOut hsecret _ (infix_of_infix_foldl hsecret hoccurs)

end Redact

-- What the reads of one window returned. Nothing is what a closed connection returns.
abbrev Window := List Bytes

-- The bytes of a window, and whether the controller closed the connection.
def Window.read : Window → Bytes × Bool
  | [] => ([], false)
  | chunk :: later =>
      if chunk = [] then ([], true)
      else (chunk ++ (Window.read later).1, (Window.read later).2)

def Window.received (window : Window) : Bytes := window.read.1

-- The lines that tell something the controller sent, and what each tells.
inductive Line where
  | closed (label : String)
  | nothing (label : String)
  | received (label : String) (count : Nat)
  | raw (dump : List Char)
  | unframed
  | noFrame
  | frame (command : Nat) (flag : UInt8) (count : Nat)
  | sent (label : String) (dump : List Char)
  | passcode (count : Nat)
deriving DecidableEq

-- The window the diagnosis waits for.
inductive Stage where
  | passive | passcodeReply | loginReply | statusReply | unsolicited | ended
deriving DecidableEq

structure Diagnosis where
  stage : Stage := .passive
  frames : FrameReader UInt8 := {}
  secrets : List Bytes := []

-- A passcode response makes a secret of its payload and of the field it may hold.
def secretsOf (frame : Frame) : List Bytes :=
  if frame.command = Command.passcodeResponse.number then
    frame.payload :: (decodeLengthPrefixed frame.payload).toOption.toList
  else []

structure Collected where
  diagnosis : Diagnosis
  parsed : List Frame := []
  lines : List Line

def Diagnosis.collect (diagnosis : Diagnosis) (label : String) (window : Window) : Collected :=
  let received := window.received
  let closed := if window.read.2 then [.closed label] else []
  if received = [] then { diagnosis, lines := closed ++ [.nothing label] }
  else
    match diagnosis.frames.feed id received with
    | (frames, none) =>
        { diagnosis := { diagnosis with frames }
          lines := closed ++ [.received label received.length,
            .raw (redactHex received diagnosis.secrets), .unframed] }
    | (frames, some entries) =>
        let parsed := entries.map Prod.fst
        let secrets := diagnosis.secrets ++ parsed.flatMap secretsOf
        { diagnosis := { diagnosis with frames, secrets }
          parsed
          lines := closed ++ [.received label received.length, .raw (redactHex received secrets)] ++
            (if parsed = [] then [.noFrame]
              else parsed.map fun frame => .frame frame.command frame.flag frame.payload.length) }

-- A frame is shown as it is sent. One that cannot be encoded ends the diagnosis.
def Diagnosis.send (diagnosis : Diagnosis) (frame : Frame) (label : String) (next : Stage) :
    Diagnosis × List Line :=
  match frame.encode with
  | .error _ => ({ diagnosis with stage := .ended }, [])
  | .ok encoded =>
      ({ diagnosis with stage := next }, [.sent label (redactHex encoded diagnosis.secrets)])

-- The passcode of the last response among the frames.
def findPasscode : Option Bytes → List Frame → List Line × Except ProtocolError (Option Bytes)
  | passcode, [] => ([], .ok passcode)
  | passcode, frame :: later =>
      if frame.command = Command.passcodeResponse.number then
        match decodeLengthPrefixed frame.payload with
        | .error error => ([], .error error)
        | .ok found =>
            let rest := findPasscode (some found) later
            (.passcode found.length :: rest.1, rest.2)
      else findPasscode passcode later

def Diagnosis.askStatus (diagnosis : Diagnosis) : Diagnosis × List Line :=
  diagnosis.send { command := Command.statusRequest.number, payload := STATUS_READ_PAYLOAD }
    "status read" .statusReply

def Diagnosis.logIn (diagnosis : Diagnosis) (answered : List Frame) : Diagnosis × List Line :=
  match findPasscode none answered with
  | (lines, .error _) => ({ diagnosis with stage := .ended }, lines)
  | (lines, .ok none) =>
      let asked := diagnosis.askStatus
      (asked.1, lines ++ asked.2)
  | (lines, .ok (some passcode)) =>
      match encodeLengthPrefixed passcode with
      | .error _ => ({ diagnosis with stage := .ended }, lines)
      | .ok payload =>
          let asked := diagnosis.send { command := Command.loginRequest.number, payload }
            "login request" .loginReply
          (asked.1, lines ++ asked.2)

-- What follows a window: the next request, or nothing more to wait for.
def Diagnosis.proceed (diagnosis : Diagnosis) (answered : List Frame) : Diagnosis × List Line :=
  match diagnosis.stage with
  | .passive =>
      diagnosis.send { command := Command.passcodeRequest.number } "passcode request" .passcodeReply
  | .passcodeReply => diagnosis.logIn answered
  | .loginReply => diagnosis.askStatus
  | .statusReply => ({ diagnosis with stage := .unsolicited }, [])
  | .unsolicited | .ended => ({ diagnosis with stage := .ended }, [])

def Stage.label : Stage → String
  | .passive => "passive"
  | .unsolicited => "unsolicited"
  | _ => "reply"

def Diagnosis.step (diagnosis : Diagnosis) (window : Window) : Option (Diagnosis × List Line) :=
  if diagnosis.stage = .ended then none
  else
    let collected := diagnosis.collect diagnosis.stage.label window
    let proceeded := collected.diagnosis.proceed collected.parsed
    some (proceeded.1, collected.lines ++ proceeded.2)

section Collect

variable (diagnosis : Diagnosis) (label : String) (window : Window)

-- What arrives in a window is fed to the reader, and shown with the secrets known by then.
theorem collect_cases :
    window.received = [] ∧ (diagnosis.collect label window).diagnosis = diagnosis ∧
        (∀ dump, .raw dump ∉ (diagnosis.collect label window).lines) ∨
      window.received ≠ [] ∧ ∃ secrets, (diagnosis.collect label window).diagnosis =
          { diagnosis with frames := (diagnosis.frames.feed id window.received).1, secrets } ∧
        (∀ dump, .raw dump ∈ (diagnosis.collect label window).lines ↔
          dump = redactHex window.received secrets) ∧
        ((diagnosis.frames.feed id window.received).2 = none ∧ secrets = diagnosis.secrets ∨
          ∃ entries, (diagnosis.frames.feed id window.received).2 = some entries ∧
            secrets = diagnosis.secrets ++ (entries.map Prod.fst).flatMap secretsOf) := by
  have hclosed (dump : List Char) :
      Line.raw dump ∉ if window.read.2 then [Line.closed label] else [] := by
    split <;> simp
  by_cases hnone : window.received = []
  · refine .inl ⟨hnone, ?_⟩
    rw [Diagnosis.collect, if_pos hnone]
    refine ⟨rfl, fun dump hdump => ?_⟩
    rcases List.mem_append.mp hdump with hdump | hdump
    · exact hclosed dump hdump
    · simp at hdump
  · refine .inr ⟨hnone, ?_⟩
    rw [Diagnosis.collect, if_neg hnone]
    cases hfeed : diagnosis.frames.feed id window.received with
    | mk frames entries =>
        cases entries with
        | none =>
            refine ⟨diagnosis.secrets, rfl, fun dump => ?_, .inl ⟨rfl, rfl⟩⟩
            simp [hclosed dump]
        | some entries =>
            refine ⟨_, rfl, fun dump => ?_, .inr ⟨entries, rfl, rfl⟩⟩
            have hframes : Line.raw dump ∉ if entries.map Prod.fst = [] then [Line.noFrame]
                else (entries.map Prod.fst).map fun frame =>
                  .frame frame.command frame.flag frame.payload.length := by
              split <;> simp
            simp only [List.mem_append, hclosed dump, hframes, List.mem_cons, List.not_mem_nil,
              reduceCtorEq, Line.raw.injEq, false_or, or_false]

end Collect

section Proceed

-- A request leaves the reader and the secrets as they are, and prints no raw line.
def Keeps (diagnosis : Diagnosis) (asked : Diagnosis × List Line) : Prop :=
  asked.1.frames = diagnosis.frames ∧ asked.1.secrets = diagnosis.secrets ∧
    ∀ dump, .raw dump ∉ asked.2

theorem send_keeps (diagnosis : Diagnosis) (frame : Frame) (label : String) (next : Stage) :
    Keeps diagnosis (diagnosis.send frame label next) := by
  unfold Diagnosis.send Keeps
  split
  · simp
  · simp

theorem findPasscode_raw (passcode : Option Bytes) (frames : List Frame) (dump : List Char) :
    .raw dump ∉ (findPasscode passcode frames).1 := by
  induction frames generalizing passcode with
  | nil => simp [findPasscode]
  | cons frame later ih =>
      rw [findPasscode]
      split
      · split
        · simp
        · simpa using ih _
      · exact ih passcode

theorem Keeps.prepend {diagnosis : Diagnosis} {asked : Diagnosis × List Line} {lines : List Line}
    (h : Keeps diagnosis asked) (hlines : ∀ dump, .raw dump ∉ lines) :
    Keeps diagnosis (asked.1, lines ++ asked.2) := by
  obtain ⟨hframes, hsecrets, hasked⟩ := h
  refine ⟨hframes, hsecrets, fun dump hdump => ?_⟩
  rcases List.mem_append.mp hdump with hdump | hdump
  · exact hlines dump hdump
  · exact hasked dump hdump

theorem logIn_keeps (diagnosis : Diagnosis) (answered : List Frame) :
    Keeps diagnosis (diagnosis.logIn answered) := by
  have hlines := findPasscode_raw none answered
  unfold Diagnosis.logIn
  generalize findPasscode none answered = found at hlines ⊢
  rcases found with ⟨lines, error | (_ | passcode)⟩
  · exact ⟨rfl, rfl, hlines⟩
  · exact (send_keeps diagnosis _ _ _).prepend hlines
  · dsimp only
    split
    · exact ⟨rfl, rfl, hlines⟩
    · exact (send_keeps diagnosis _ _ _).prepend hlines

theorem proceed_keeps (diagnosis : Diagnosis) (answered : List Frame) :
    Keeps diagnosis (diagnosis.proceed answered) := by
  unfold Diagnosis.proceed
  cases diagnosis.stage with
  | passive => exact send_keeps diagnosis _ _ _
  | passcodeReply => exact logIn_keeps diagnosis answered
  | loginReply => exact send_keeps diagnosis _ _ _
  | statusReply => exact ⟨rfl, rfl, by simp⟩
  | unsolicited => exact ⟨rfl, rfl, by simp⟩
  | ended => exact ⟨rfl, rfl, by simp⟩

end Proceed

-- All a step does to the reader and the secrets, and the raw line it prints.
theorem step_cases {diagnosis after : Diagnosis} {window : Window} {lines : List Line}
    (h : diagnosis.step window = some (after, lines)) :
    window.received = [] ∧ after.frames = diagnosis.frames ∧ after.secrets = diagnosis.secrets ∧
        (∀ dump, .raw dump ∉ lines) ∨
      window.received ≠ [] ∧ after.frames = (diagnosis.frames.feed id window.received).1 ∧
        (∀ dump, .raw dump ∈ lines ↔ dump = redactHex window.received after.secrets) ∧
        ((diagnosis.frames.feed id window.received).2 = none ∧
            after.secrets = diagnosis.secrets ∨
          ∃ entries, (diagnosis.frames.feed id window.received).2 = some entries ∧
            after.secrets = diagnosis.secrets ++ (entries.map Prod.fst).flatMap secretsOf) := by
  have hcases := collect_cases diagnosis diagnosis.stage.label window
  unfold Diagnosis.step at h
  split at h
  · cases h
  generalize diagnosis.collect diagnosis.stage.label window = collected at h hcases
  obtain ⟨hframes, hsecrets, hraw⟩ := proceed_keeps collected.diagnosis collected.parsed
  obtain ⟨rfl, rfl⟩ := Prod.mk.inj (Option.some.inj h)
  simp only [hframes, hsecrets, List.mem_append, hraw, or_false]
  rcases hcases with ⟨hnone, hsame, hlines⟩ | ⟨hsome, secrets, hfed, hlines, hknown⟩
  · exact .inl ⟨hnone, by rw [hsame], by rw [hsame], hlines⟩
  · rw [hfed]
    exact .inr ⟨hsome, rfl, hlines, hknown⟩

end Homeflow.Bestway.Probe
