import Mathlib.Algebra.Group.Nat.Defs
import Mathlib.Data.List.TakeWhile
import VpcOperator.Controller.Timing

/-! # Which settings are accepted

A setting is accepted just when it is not set or written as a number of seconds
that is neither zero nor too large. What such a text looks like is said without
the reader: blanks, one plus sign at most, decimal digits, blanks. Settings are
looked up in a fixed order up to the first one that is not accepted.
-/

namespace VpcOperator

/-! ## Texts without their blanks -/

namespace Text

theorem isBlank_of_isDigit {c : Char} (h : c.isDigit) : isBlank c = false := by
  simp only [Char.isDigit, ge_iff_le, Bool.and_eq_true, decide_eq_true_eq, UInt32.le_iff_toNat_le]
    at h
  have hfirst : 48 ≤ c.toNat := h.1
  have hlast : c.toNat ≤ 57 := h.2
  simp [isBlank, blankRanges]
  omega

theorem exists_trim (text : List Char) :
    ∃ front back, text = front ++ trim text ++ back ∧ ∀ c ∈ front ++ back, isBlank c := by
  refine ⟨text.takeWhile isBlank, ((text.dropWhile isBlank).reverse.takeWhile isBlank).reverse,
    ?_, fun c hc => ?_⟩
  · rw [trim, List.append_assoc, ← List.reverse_append, List.takeWhile_append_dropWhile,
      List.reverse_reverse, List.takeWhile_append_dropWhile]
  · rcases List.mem_append.1 hc with hc | hc
    · exact List.mem_takeWhile_imp hc
    · exact List.mem_takeWhile_imp (List.mem_reverse.1 hc)

theorem dropWhile_isBlank_append {front text : List Char} (hfront : ∀ c ∈ front, isBlank c)
    (htext : ∀ c ∈ text.head?, isBlank c = false) : (front ++ text).dropWhile isBlank = text := by
  rw [List.dropWhile_append_of_pos hfront]
  cases text with
  | nil => rfl
  | cons first rest => exact List.dropWhile_cons_of_neg (by simpa using htext)

/-- A text of characters that are not blank is all that is left. -/
theorem trim_append {front text back : List Char} (htext : ∀ c ∈ text, isBlank c = false)
    (hne : text ≠ []) (hblank : ∀ c ∈ front ++ back, isBlank c) :
    trim (front ++ text ++ back) = text := by
  have hstart : (front ++ (text ++ back)).dropWhile isBlank = text ++ back := by
    refine dropWhile_isBlank_append (fun c hc => hblank c (List.mem_append_left _ hc)) ?_
    obtain ⟨first, rest, rfl⟩ := List.exists_cons_of_ne_nil hne
    exact fun c hc => htext c (List.mem_of_mem_head? hc)
  have hend : (back.reverse ++ text.reverse).dropWhile isBlank = text.reverse := by
    refine dropWhile_isBlank_append
      (fun c hc => hblank c (List.mem_append_right _ (List.mem_reverse.1 hc))) fun c hc => ?_
    exact htext c (List.mem_reverse.1 (List.mem_of_mem_head? hc))
  rw [trim, List.append_assoc, hstart, List.reverse_append, hend, List.reverse_reverse]

end Text

/-! ## Numbers of seconds -/

namespace Seconds

/-- Decimal digits after one plus sign at most. Any number of them may be leading zeros. -/
def IsNumeral (text : List Char) (number : Nat) : Prop :=
  ∃ digits, (text = digits ∨ text = '+' :: digits) ∧ digits ≠ [] ∧ (∀ c ∈ digits, c.isDigit) ∧
    number = Nat.ofDigitChars 10 digits 0

/-- The text is a numeral with blanks around it. -/
def Denotes (text : String) (number : Nat) : Prop :=
  ∃ front numeral back, text.toList = front ++ numeral ++ back ∧
    (∀ c ∈ front ++ back, Text.isBlank c) ∧ IsNumeral numeral number

theorem digit?_eq (c : Char) :
    digit? c = if c.isDigit then some (c.toNat - '0'.toNat) else none := by
  have hdigit : ('0' ≤ c ∧ c ≤ '9') ↔ c.isDigit = true := by
    simp [Char.isDigit, Char.le_def]
  simp only [digit?, hdigit]

theorem le_ofDigitChars (digits : List Char) (value : Nat) :
    value ≤ Nat.ofDigitChars 10 digits value := by
  induction digits generalizing value with
  | nil => exact Nat.le_refl _
  | cons c rest ih =>
    rw [Nat.ofDigitChars_cons]
    exact Nat.le_trans (by omega) (ih _)

/-- No digit makes a number smaller, so one that is too large on the way is so in the end. -/
theorem readDigits_eq_ok_iff {digits : List Char} {value number : Nat} (hvalue : value < bound) :
    readDigits value digits = .ok number ↔
      (∀ c ∈ digits, c.isDigit) ∧ number = Nat.ofDigitChars 10 digits value ∧ number < bound := by
  induction digits generalizing value with
  | nil =>
    simp only [readDigits, Except.ok.injEq, Nat.ofDigitChars_nil]
    constructor
    · rintro rfl
      exact ⟨by simp, rfl, hvalue⟩
    · exact fun h => h.2.1.symm
  | cons c rest ih =>
    rw [readDigits, digit?_eq, Nat.ofDigitChars_cons]
    by_cases hdigit : c.isDigit
    · simp only [hdigit, if_true, List.forall_mem_cons, true_and]
      by_cases hnext : 10 * value + (c.toNat - '0'.toNat) < bound
      · rw [if_pos hnext, ih hnext]
      · rw [if_neg hnext]
        have hlarge := le_ofDigitChars rest (10 * value + (c.toNat - '0'.toNat))
        constructor
        · nofun
        · rintro ⟨-, rfl, hlt⟩
          exact absurd (Nat.lt_of_le_of_lt hlarge hlt) hnext
    · simp [hdigit]

theorem readNumber_eq_ok_iff {text : List Char} {number : Nat} :
    readNumber text = .ok number ↔ IsNumeral text number ∧ number < bound := by
  have hzero : 0 < bound := by decide
  have hplus : ¬ '+'.isDigit := by decide
  unfold readNumber
  split
  · constructor
    · nofun
    · rintro ⟨⟨digits, rfl | h, hne, -⟩, -⟩
      · exact absurd rfl hne
      · cases h
  · constructor
    · nofun
    · rintro ⟨⟨digits, rfl | h, hne, hdigits, -⟩, -⟩
      · exact absurd (hdigits _ List.mem_cons_self) hplus
      · exact absurd (List.cons.inj h).2.symm hne
  · rename_i rest hrest
    rw [readDigits_eq_ok_iff hzero]
    constructor
    · rintro ⟨hdigits, rfl, hlt⟩
      exact ⟨⟨rest, .inr rfl, fun h => hrest h, hdigits, rfl⟩, hlt⟩
    · rintro ⟨⟨digits, rfl | h, hne, hdigits, rfl⟩, hlt⟩
      · exact absurd (hdigits _ List.mem_cons_self) hplus
      · cases h
        exact ⟨hdigits, rfl, hlt⟩
  · rename_i hnil hlone hsigned
    rw [readDigits_eq_ok_iff hzero]
    constructor
    · rintro ⟨hdigits, rfl, hlt⟩
      exact ⟨⟨text, .inl rfl, hnil, hdigits, rfl⟩, hlt⟩
    · rintro ⟨⟨digits, rfl | h, hne, hdigits, rfl⟩, hlt⟩
      · exact ⟨hdigits, rfl, hlt⟩
      · exact absurd h (hsigned digits)

theorem IsNumeral.not_blank {text : List Char} {number : Nat} (h : IsNumeral text number) :
    text ≠ [] ∧ ∀ c ∈ text, Text.isBlank c = false := by
  obtain ⟨digits, htext, hne, hdigits, -⟩ := h
  have hblank : ∀ c ∈ digits, Text.isBlank c = false := fun c hc =>
    Text.isBlank_of_isDigit (hdigits c hc)
  rcases htext with rfl | rfl
  · exact ⟨hne, hblank⟩
  · exact ⟨List.cons_ne_nil _ _, List.forall_mem_cons.2 ⟨by decide, hblank⟩⟩

theorem read_eq_ok_iff {text : String} {number : Nat} :
    read text = .ok number ↔ Denotes text number ∧ number < bound := by
  rw [read, readNumber_eq_ok_iff]
  refine and_congr_left fun _ => ⟨fun h => ?_, ?_⟩
  · obtain ⟨front, back, htext, hblank⟩ := Text.exists_trim text.toList
    exact ⟨front, _, back, htext, hblank, h⟩
  · rintro ⟨front, numeral, back, htext, hblank, h⟩
    rw [htext, Text.trim_append h.not_blank.2 h.not_blank.1 hblank]
    exact h

end Seconds

/-! ## Settings -/

namespace Setting

/-- In the order in which they are looked up. -/
def all : List Setting :=
  [requeue, errorRequeue, resync, passTimeout]

/-- The setting comes to this number of seconds: its default if it is not set. -/
inductive Comes (setting : Setting) : Option String → Nat → Prop
  | unset : Comes setting none setting.default
  | given {text : String} {seconds : Nat} :
      Seconds.Denotes text seconds → 1 ≤ seconds → seconds ≤ 2 ^ 64 - 1 →
      Comes setting (some text) seconds

def IsValid (setting : Setting) (value : Option String) : Prop :=
  ∃ seconds, setting.Comes value seconds

end Setting

namespace SettingFault

def setting : SettingFault → Setting
  | notANumber setting _ _ => setting
  | zero setting => setting

/-- The message starts with the name of the setting that is at fault. -/
theorem messages_head (fault : SettingFault) :
    ∃ detail causes, fault.messages = (fault.setting.key ++ detail) :: causes := by
  cases fault with
  | notANumber setting value cause =>
    refine ⟨" must be a number of seconds, got " ++ Text.quote value, [cause.message], ?_⟩
    rw [← String.append_assoc]
    rfl
  | zero setting => exact ⟨" must be greater than zero", [], rfl⟩

end SettingFault

namespace Timing

def get (timing : Timing) : Setting → Nat
  | .requeue => timing.requeue
  | .errorRequeue => timing.errorRequeue
  | .resync => timing.resync
  | .passTimeout => timing.passTimeout

variable {setting : Setting} {value : Option String}

theorem readSetting_eq_ok_iff {seconds : Nat} :
    readSetting setting value = .ok seconds ↔ setting.Comes value seconds := by
  cases value with
  | none =>
    simp only [readSetting, Except.ok.injEq]
    constructor
    · rintro rfl
      exact .unset
    · rintro ⟨⟩
      rfl
  | some text =>
    have hbound : Seconds.bound = 2 ^ 64 := by decide
    cases hread : Seconds.read text with
    | error cause =>
      simp only [readSetting, hread]
      constructor
      · nofun
      · rintro (_ | ⟨hdenotes, hpos, hmax⟩)
        have hok := Seconds.read_eq_ok_iff.2 ⟨hdenotes, by omega⟩
        rw [hread] at hok
        cases hok
    | ok number =>
      obtain ⟨hdenotes, hlt⟩ := Seconds.read_eq_ok_iff.1 hread
      simp only [readSetting, hread]
      constructor
      · intro h
        split at h
        · cases h
        · cases h
          exact .given hdenotes (by omega) (by omega)
      · rintro (_ | ⟨hother, hpos, hmax⟩)
        have hok := Seconds.read_eq_ok_iff.2 ⟨hother, by omega⟩
        rw [hread] at hok
        cases hok
        rw [if_neg (by omega)]

theorem comes_unique {seconds other : Nat} (h : setting.Comes value seconds)
    (hother : setting.Comes value other) : seconds = other :=
  Except.ok.inj ((readSetting_eq_ok_iff.2 h).symm.trans (readSetting_eq_ok_iff.2 hother))

theorem readSetting_fault {fault : SettingFault} (h : readSetting setting value = .error fault) :
    fault.setting = setting ∧ ¬ setting.IsValid value := by
  refine ⟨?_, ?_⟩
  · unfold readSetting at h
    split at h
    · cases h
    · split at h
      · cases h
        rfl
      · split at h
        · cases h
          rfl
        · cases h
  · rintro ⟨seconds, hcomes⟩
    rw [readSetting_eq_ok_iff.2 hcomes] at h
    cases h

variable {lookUp : String → Option String}

theorem consult_bind {α : Type} (next : Nat → ExceptT SettingFault (StateM (List Setting)) α)
    (asked : List Setting) :
    (consult lookUp setting >>= next).run.run asked =
      match readSetting setting (lookUp setting.key) with
      | .ok seconds => (next seconds).run.run (asked ++ [setting])
      | .error fault => (.error fault, asked ++ [setting]) := by
  cases h : readSetting setting (lookUp setting.key) <;> rw [consult, h] <;> rfl

/-- All settings have been looked up and come to what was read, or the last one looked up is the
first that is at fault. -/
def Settles (lookUp : String → Option String) : Except SettingFault Timing × List Setting → Prop
  | (.ok timing, asked) =>
    asked = Setting.all ∧ ∀ setting : Setting, setting.Comes (lookUp setting.key) (timing.get setting)
  | (.error fault, asked) =>
    ∃ before after, Setting.all = before ++ fault.setting :: after ∧
      asked = before ++ [fault.setting] ∧
      (∀ setting ∈ before, setting.IsValid (lookUp setting.key)) ∧
      ¬ fault.setting.IsValid (lookUp fault.setting.key)

/-- One more setting is looked up after others that are valid. -/
theorem consult_settles {before : List Setting} (after : List Setting)
    {next : Nat → ExceptT SettingFault (StateM (List Setting)) Timing}
    (hall : Setting.all = before ++ setting :: after)
    (hbefore : ∀ earlier ∈ before, earlier.IsValid (lookUp earlier.key))
    (hnext : ∀ seconds, setting.Comes (lookUp setting.key) seconds →
      Settles lookUp ((next seconds).run.run (before ++ [setting]))) :
    Settles lookUp ((consult lookUp setting >>= next).run.run before) := by
  rw [consult_bind]
  cases h : readSetting setting (lookUp setting.key) with
  | ok seconds => exact hnext seconds (readSetting_eq_ok_iff.1 h)
  | error fault =>
    obtain ⟨rfl, hinvalid⟩ := readSetting_fault h
    exact ⟨before, after, hall, rfl, hbefore, hinvalid⟩

theorem load_settles (lookUp : String → Option String) : Settles lookUp (load lookUp) := by
  refine consult_settles [.errorRequeue, .resync, .passTimeout] rfl (by simp)
    fun requeue h₁ => ?_
  refine consult_settles [.resync, .passTimeout] rfl ?_ fun errorRequeue h₂ => ?_
  · simpa using ⟨_, h₁⟩
  refine consult_settles [.passTimeout] rfl ?_ fun resync h₃ => ?_
  · simpa using ⟨⟨_, h₁⟩, _, h₂⟩
  refine consult_settles [] rfl ?_ fun passTimeout h₄ => ?_
  · simpa using ⟨⟨_, h₁⟩, ⟨_, h₂⟩, _, h₃⟩
  refine ⟨rfl, fun setting => ?_⟩
  cases setting with
  | requeue => exact h₁
  | errorRequeue => exact h₂
  | resync => exact h₃
  | passTimeout => exact h₄

theorem comes_of_load {timing : Timing} (h : (load lookUp).1 = .ok timing) (setting : Setting) :
    setting.Comes (lookUp setting.key) (timing.get setting) := by
  have hsettles := load_settles lookUp
  rcases hload : load lookUp with ⟨result, asked⟩
  rw [hload] at h hsettles
  obtain rfl : result = .ok timing := h
  exact hsettles.2 setting

/-- The settings are accepted if and only if every one is valid. Otherwise the fault is that of the
first one that is not, and none after it has been looked up. -/
theorem load_accepts_valid (lookUp : String → Option String) :
    ((∃ timing, (load lookUp).1 = .ok timing) ↔
      ∀ setting : Setting, setting.IsValid (lookUp setting.key)) ∧
    (∀ timing, (load lookUp).1 = .ok timing →
      ∀ setting : Setting, setting.Comes (lookUp setting.key) (timing.get setting)) ∧
    ∀ fault, (load lookUp).1 = .error fault →
      ∃ before after, Setting.all = before ++ fault.setting :: after ∧
        (∀ setting ∈ before, setting.IsValid (lookUp setting.key)) ∧
        ¬ fault.setting.IsValid (lookUp fault.setting.key) ∧
        (load lookUp).2 = before ++ [fault.setting] ∧
        ∃ detail causes, fault.messages = (fault.setting.key ++ detail) :: causes := by
  have hsettles := load_settles lookUp
  refine ⟨⟨?_, fun hvalid => ?_⟩, fun timing => comes_of_load, fun fault hfault => ?_⟩
  · rintro ⟨timing, htiming⟩ setting
    exact ⟨_, comes_of_load htiming setting⟩
  · rcases hload : load lookUp with ⟨fault | timing, asked⟩
    · rw [hload] at hsettles
      obtain ⟨before, after, -, -, -, hinvalid⟩ := hsettles
      exact absurd (hvalid _) hinvalid
    · exact ⟨timing, rfl⟩
  · rcases hload : load lookUp with ⟨result, asked⟩
    rw [hload] at hfault hsettles
    obtain rfl : result = .error fault := hfault
    obtain ⟨before, after, hall, hasked, hbefore, hinvalid⟩ := hsettles
    exact ⟨before, after, hall, hbefore, hinvalid, hasked, fault.messages_head⟩

-- Leading zeros and a sign do not matter, and the last number of 64 bits is accepted.
example :
    load (fun key =>
        if key = Setting.key .requeue then some " +007\n"
        else if key = Setting.key .resync then some "018446744073709551615"
        else if key = Setting.key .passTimeout then some "18446744073709551616"
        else none) =
      (.error (.notANumber .passTimeout "18446744073709551616" .tooLarge), Setting.all) := by
  decide +kernel

end Timing

end VpcOperator
