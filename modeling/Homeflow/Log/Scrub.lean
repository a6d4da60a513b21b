import Homeflow.Lib.Scanner

namespace Homeflow.Log

open Pieces Scanner

def REDACTED : String := "[redacted]"

-- What str.isspace takes for blank among the ASCII characters.
def asciiSpace (char : Char) : Bool :=
  [9, 10, 11, 12, 13, 28, 29, 30, 31, 32].contains char.toNat

-- The character classes of re, and str.lower, beyond ASCII.
structure Unicode where
  word : Char → Bool
  decimal : Char → Bool
  space : Char → Bool
  lower : String → String
  word_ascii : ∀ char, char.toNat < 128 → word char = (char.isAlphanum || char == '_')
  decimal_ascii : ∀ char, char.toNat < 128 → decimal char = char.isDigit
  space_ascii : ∀ char, char.toNat < 128 → space char = asciiSpace char
  word_of_decimal : ∀ char, decimal char = true → word char = true
  lower_ascii : ∀ text : String, (∀ char ∈ text.toList, char.toNat < 128) →
    lower text = String.ofList (text.toList.map Char.toLower)

theorem asciiWord_of_isDigit (char : Char) (h : char.isDigit = true) :
    (char.isAlphanum || char == '_') = true := by
  simp [Char.isAlphanum, h]

-- Tables that end with ASCII.
def asciiOnly : Unicode where
  word char := char.isAlphanum || char == '_'
  decimal := Char.isDigit
  space := asciiSpace
  lower text := String.ofList (text.toList.map Char.toLower)
  word_ascii _ _ := rfl
  decimal_ascii _ _ := rfl
  space_ascii _ _ := rfl
  word_of_decimal := asciiWord_of_isDigit
  lower_ascii _ _ := rfl

-- The ASCII character that a character stands for where letter case does not matter.
def fold (char : Char) : Char :=
  if char = '\u0130' ∨ char = '\u0131' then 'i'
  else if char = '\u017f' then 's'
  else if char = '\u212a' then 'k'
  else char.toLower

def literal (text : String) : List (Piece Char) :=
  text.toList.map fun expected => { holds := fun char => char == expected }

def foldedLiteral (text : String) : List (Piece Char) :=
  text.toList.map fun expected => { holds := fun char => fold char == expected }

def isHex (char : Char) : Bool :=
  char.isDigit || ('A' ≤ char && char ≤ 'F') || ('a' ≤ char && char ≤ 'f')

section Patterns

variable (unicode : Unicode)

def bearer : Pattern Char where
  pieces := foldedLiteral "bearer" ++
    [{ holds := unicode.space, most := none },
      { holds := fun char => (fold char).isAlphanum || ['.', '_', '~', '+', '/', '-'].contains char,
        most := none },
      { holds := fun char => char == '=', least := 0, most := none }]

def macAddress : Pattern Char where
  pieces := (List.replicate 5 [{ holds := isHex, least := 2, most := some 2 },
    { holds := fun char => char == ':' || char == '-' }]).flatten ++
    [{ holds := isHex, least := 2, most := some 2 }]
  closed := true

def jwt : Pattern Char where
  pieces := literal "eyJ" ++
    [{ holds := fun char => char.isAlphanum || ['.', '_', '-'].contains char,
       least := 20, most := none }]

def tailscaleKey : Pattern Char where
  pieces := foldedLiteral "tskey-" ++ { holds := fun char => (fold char).isLower, most := none } ::
    foldedLiteral "-" ++ [{ holds := fun char => (fold char).isAlphanum, least := 6, most := none }]

def ipv4 : Pattern Char where
  pieces := (List.replicate 3 [{ holds := unicode.decimal, most := some 3 },
    { holds := fun char => char == '.' }]).flatten ++ [{ holds := unicode.decimal, most := some 3 }]
  closed := true

def _PATTERNS : List (Pattern Char) :=
  [bearer unicode, macAddress, jwt, tailscaleKey, ipv4 unicode]

def scrubText (value : String) : String :=
  String.ofList (substitutions unicode.word REDACTED.toList (_PATTERNS unicode) value.toList)

end Patterns

section Sound

variable (unicode : Unicode)

theorem redacted_toList : REDACTED.toList = '[' :: "redacted".toList ++ [']'] := by decide

-- What holds of the ASCII characters one by one.
theorem forall_ascii {P : Char → Prop} (h : ∀ code < 128, P (Char.ofNat code)) (char : Char)
    (hchar : char.toNat < 128) : P char := by
  have hcode := h char.toNat hchar
  rwa [Char.ofNat_toNat] at hcode

theorem isAlphanum_toLower (char : Char) : char.toLower.isAlphanum = char.isAlphanum := by
  rcases lt_or_ge char.toNat 128 with hascii | hbeyond
  · refine forall_ascii (P := fun char => char.toLower.isAlphanum = char.isAlphanum) ?_ char hascii
    decide
  · have hsame : char.toLower = char := by
      refine dif_neg fun h => ?_
      have hupper : char.toNat ≤ 90 := h.2
      omega
    rw [hsame]

theorem isAlphanum_of_fold {char expected : Char} (h : fold char = expected)
    (hexpected : expected.isAlphanum = true ∧ expected ∉ ['i', 's', 'k']) :
    char.isAlphanum = true := by
  rw [← h, fold] at hexpected
  split_ifs at hexpected with hi hs hk
  · simp at hexpected
  · simp at hexpected
  · simp at hexpected
  · rw [← isAlphanum_toLower]
    exact hexpected.1

theorem isAlphanum_fold {char : Char} (h : char.isAlphanum = true) :
    (fold char).isAlphanum = true := by
  unfold fold
  split_ifs
  · rfl
  · rfl
  · rfl
  · rwa [isAlphanum_toLower]

theorem isAlphanum_of_isHex {char : Char} (h : isHex char = true) : char.isAlphanum = true := by
  delta isHex Char.isDigit at h
  delta Char.isAlphanum Char.isAlpha Char.isUpper Char.isLower Char.isDigit
  simp [Char.le_def, UInt32.le_iff_toNat_le] at h ⊢
  omega

theorem word_of_isAlphanum {char : Char} (h : char.isAlphanum = true) :
    unicode.word char = true := by
  have hascii : char.toNat < 128 := by
    delta Char.isAlphanum Char.isAlpha Char.isUpper Char.isLower Char.isDigit at h
    simp [UInt32.le_iff_toNat_le] at h
    omega
  rw [unicode.word_ascii char hascii, h, Bool.true_or]

-- What a class does not find in a text, character by character.
theorem holds_eq_false_of_any {holds : Char → Bool} {text : List Char}
    (h : text.any holds = false) : ∀ char ∈ text, holds char = false := fun char hchar =>
  Bool.eq_false_iff.mpr (List.any_eq_false.mp h char hchar)

-- The brackets of the mark, and the letters between them, are neither blank nor digits.
theorem mark_ascii {char : Char} (h : char ∈ REDACTED.toList) :
    char.toNat < 128 ∧ asciiSpace char = false ∧ char.isDigit = false := by
  have hclass := @holds_eq_false_of_any
    (fun char => 128 ≤ char.toNat || asciiSpace char || char.isDigit) REDACTED.toList
    (by decide) char h
  simpa [and_assoc] using hclass

theorem space_mark {char : Char} (h : char ∈ REDACTED.toList) : unicode.space char = false := by
  rw [unicode.space_ascii char (mark_ascii h).1, (mark_ascii h).2.1]

theorem decimal_mark {char : Char} (h : char ∈ REDACTED.toList) : unicode.decimal char = false := by
  rw [unicode.decimal_ascii char (mark_ascii h).1, (mark_ascii h).2.2]

theorem word_closing : unicode.word ']' = false := unicode.word_ascii ']' (by decide)

theorem mem_mark {char : Char} (h : char ∈ "redacted".toList) : char ∈ REDACTED.toList := by
  rw [redacted_toList]
  exact List.mem_cons_of_mem _ (List.mem_append_left _ h)

theorem bearer_sound : (bearer unicode).Sound unicode.word '[' ']' "redacted".toList := by
  refine ⟨⟨_, _, rfl, Nat.one_pos, fun char hchar => ?_⟩, ?_, ?_, by simp [bearer]⟩
  · exact word_of_isAlphanum unicode (isAlphanum_of_fold (eq_of_beq hchar) (by decide))
  · refine List.forall_mem_append.mpr ⟨by decide, ?_⟩
    refine List.forall_mem_cons.mpr ⟨?_, by decide⟩
    exact ⟨space_mark unicode (by decide), space_mark unicode (by decide)⟩
  · refine ⟨_, List.mem_append_right _ List.mem_cons_self, Nat.one_pos, fun char hchar => ?_⟩
    exact space_mark unicode (mem_mark hchar)

theorem macAddress_sound : macAddress.Sound unicode.word '[' ']' "redacted".toList := by
  refine ⟨⟨_, _, rfl, Nat.two_pos, fun char hchar => ?_⟩, by decide, ?_, fun _ => ?_⟩
  · exact word_of_isAlphanum unicode (isAlphanum_of_isHex hchar)
  · exact ⟨_, List.mem_cons_of_mem _ List.mem_cons_self, Nat.one_pos,
      holds_eq_false_of_any (by decide)⟩
  · refine ⟨_, _, rfl, Nat.two_pos, fun char hchar => ?_⟩
    exact word_of_isAlphanum unicode (isAlphanum_of_isHex hchar)

theorem jwt_sound : jwt.Sound unicode.word '[' ']' "redacted".toList := by
  refine ⟨⟨_, _, rfl, Nat.one_pos, fun char hchar => ?_⟩, by decide, ?_, by simp [jwt]⟩
  · obtain rfl := eq_of_beq hchar
    exact word_of_isAlphanum unicode rfl
  · exact ⟨_, List.mem_cons_of_mem _ List.mem_cons_self, Nat.one_pos,
      holds_eq_false_of_any (by decide)⟩

theorem tailscaleKey_sound : tailscaleKey.Sound unicode.word '[' ']' "redacted".toList := by
  refine ⟨⟨_, _, rfl, Nat.one_pos, fun char hchar => ?_⟩, by decide, ?_, by simp [tailscaleKey]⟩
  · exact word_of_isAlphanum unicode (isAlphanum_of_fold (eq_of_beq hchar) (by decide))
  · exact ⟨_, List.mem_cons_of_mem _ (List.mem_cons_of_mem _ List.mem_cons_self),
      Nat.one_pos, holds_eq_false_of_any (by decide)⟩

theorem ipv4_sound : (ipv4 unicode).Sound unicode.word '[' ']' "redacted".toList := by
  have hopening := decimal_mark unicode (by decide : '[' ∈ REDACTED.toList)
  have hclosing := decimal_mark unicode (by decide : ']' ∈ REDACTED.toList)
  refine ⟨⟨_, _, rfl, Nat.one_pos, unicode.word_of_decimal⟩, ?_, ?_, fun _ => ?_⟩
  · simp [ipv4, hopening, hclosing]
  · refine ⟨_, List.mem_cons_self, Nat.one_pos, fun char hchar => ?_⟩
    exact decimal_mark unicode (mem_mark hchar)
  · exact ⟨_, _, rfl, Nat.one_pos, unicode.word_of_decimal⟩

theorem patterns_sound : ∀ pattern ∈ _PATTERNS unicode,
    pattern.Sound unicode.word '[' ']' "redacted".toList := by
  simp only [_PATTERNS, List.forall_mem_cons]
  exact ⟨bearer_sound unicode, macAddress_sound unicode, jwt_sound unicode,
    tailscaleKey_sound unicode, ipv4_sound unicode, by simp⟩

end Sound

section Stops

variable (unicode : Unicode)

-- The patterns before the last begin with a letter or a digit.
def Lettered (pattern : Pattern Char) : Prop :=
  ∀ char, pattern.first char = true → char.isAlphanum = true

theorem bearer_lettered : Lettered (bearer unicode) := fun _ hchar =>
  isAlphanum_of_fold (eq_of_beq hchar) (by decide)

theorem macAddress_lettered : Lettered macAddress := fun _ => isAlphanum_of_isHex

theorem jwt_lettered : Lettered jwt := fun char hchar => by
  obtain rfl : char = 'e' := eq_of_beq hchar
  rfl

theorem tailscaleKey_lettered : Lettered tailscaleKey := fun _ hchar =>
  isAlphanum_of_fold (eq_of_beq hchar) (by decide)

variable {first : Pattern Char}

theorem stops_bearer (h : Lettered first) : Stops unicode.word first (bearer unicode) := by
  refine .inr ⟨_ ++ [_], _, [_], (List.append_assoc _ [_] _).symm, rfl, Nat.one_pos, ?_, ?_⟩
  · intro other hother char hchar
    obtain rfl := List.mem_singleton.mp hother
    obtain rfl : char = '=' := eq_of_beq hchar
    exact unicode.word_ascii '=' (by decide)
  · intro char hchar
    simp [isAlphanum_fold (h char hchar)]

theorem stops_jwt (h : Lettered first) : Stops unicode.word first jwt := by
  refine .inr ⟨literal "eyJ", _, [], rfl, rfl, by decide, by simp, fun char hchar => ?_⟩
  simp [h char hchar]

theorem stops_tailscaleKey (h : Lettered first) : Stops unicode.word first tailscaleKey := by
  refine .inr ⟨foldedLiteral "tskey-" ++ _ :: foldedLiteral "-", _, [], rfl, rfl, by decide,
    by simp, ?_⟩
  exact fun char hchar => isAlphanum_fold (h char hchar)

theorem patterns_stop_self : ∀ pattern ∈ _PATTERNS unicode, Stops unicode.word pattern pattern := by
  simp only [_PATTERNS, List.forall_mem_cons]
  exact ⟨stops_bearer unicode (bearer_lettered unicode), .inl rfl, stops_jwt unicode jwt_lettered,
    stops_tailscaleKey unicode tailscaleKey_lettered, .inl rfl, by simp⟩

theorem patterns_stop : (_PATTERNS unicode).Pairwise (Stops unicode.word) := by
  simp only [_PATTERNS, List.pairwise_cons, List.forall_mem_cons]
  refine ⟨⟨.inl rfl, ?_, ?_, .inl rfl, by simp⟩, ⟨?_, ?_, .inl rfl, by simp⟩,
    ⟨?_, .inl rfl, by simp⟩, ⟨.inl rfl, by simp⟩, by simp, List.Pairwise.nil⟩
  · exact stops_jwt unicode (bearer_lettered unicode)
  · exact stops_tailscaleKey unicode (bearer_lettered unicode)
  · exact stops_jwt unicode macAddress_lettered
  · exact stops_tailscaleKey unicode macAddress_lettered
  · exact stops_tailscaleKey unicode jwt_lettered

-- What has been scrubbed is not changed by scrubbing it again.
theorem scrubText_idem (value : String) :
    scrubText unicode (scrubText unicode value) = scrubText unicode value := by
  unfold scrubText
  rw [String.toList_ofList, redacted_toList, substitutions_idem (word_closing unicode)
    (patterns_sound unicode) (patterns_stop_self unicode) (patterns_stop unicode)]

theorem scrubText_redacted : scrubText unicode REDACTED = REDACTED := by
  unfold scrubText
  rw [redacted_toList, substitutions_mark (patterns_sound unicode), ← redacted_toList,
    String.ofList_toList]

end Stops

end Homeflow.Log
