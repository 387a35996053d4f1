import ChannelLayer.Acknowledgement.Json
import ChannelLayer.Proofs.Reading

/-!
# Reading a status back

A status goes into its JSON object as it is, and JSON gives a meaning to what stands between the quotes. Where the
text of the status has a quote, a backslash or a control character, it does not come back as it was: it is turned
down, or it is read as another text. All other texts come back (`AckStatus.reads_back_iff`). The argument is one of
length: an escape is longer than the character that it stands for (`Json.readString_eq_some`), so what comes back
as it was had none.
-/

set_option autoImplicit false

namespace ChannelLayer

namespace Json

/-- A character that stands for itself between quotes. -/
def isPlain (c : Char) : Bool := c ≠ '"' && c ≠ '\\' && 0x20 ≤ c.toNat

theorem readString_append {cs rest : List Char} (h : cs.all isPlain = true) :
    readString (cs ++ '"' :: rest) = some (cs, rest) := by
  induction cs with
  | nil => rw [List.nil_append, readString]
  | cons c cs ih =>
    rw [List.all_cons, Bool.and_eq_true] at h
    obtain ⟨hc, hcs⟩ := h
    simp only [isPlain, Bool.and_eq_true, decide_eq_true_eq, ne_eq] at hc
    obtain ⟨⟨hquote, hslash⟩, hcontrol⟩ := hc
    rw [List.cons_append, readString]
    · simp [hslash, hcontrol, ih hcs]
    -- No earlier row of the reader is for `c`.
    all_goals grind

/-- A string is read from itself if all its characters stand for themselves, and from a longer text otherwise. -/
theorem readString_eq_some {xs v rest : List Char} (h : readString xs = some (v, rest)) :
    xs = v ++ '"' :: rest ∧ v.all isPlain = true ∨ v.length + rest.length + 1 < xs.length := by
  -- Two characters more than what is read behind it are enough for an escape.
  have hescape {cs v rest : List Char} {e : Char} {n : Nat}
      (ih : ∀ {v rest : List Char}, readString cs = some (v, rest) →
        cs = v ++ '"' :: rest ∧ v.all isPlain = true ∨ v.length + rest.length + 1 < cs.length)
      (h : (readString cs).map (fun r => (e :: r.1, r.2)) = some (v, rest)) (hn : cs.length + 2 ≤ n) :
      v.length + rest.length + 1 < n := by
    obtain ⟨⟨v, rest⟩, hread, heq⟩ := Option.map_eq_some_iff.1 h
    obtain ⟨rfl, rfl⟩ := Prod.mk.inj heq
    rw [List.length_cons]
    rcases ih hread with ⟨rfl, -⟩ | hlt
    · rw [List.length_append, List.length_cons] at hn
      show v.length + 1 + rest.length + 1 < n
      omega
    · show v.length + 1 + rest.length + 1 < n
      omega
  fun_induction readString xs generalizing v rest with
  | case2 =>
    obtain ⟨rfl, rfl⟩ := Prod.mk.inj (Option.some.inj h)
    exact .inl ⟨rfl, rfl⟩
  | case5 _ _ _ _ _ _ _ _ _ _ _ _ _ _ _ ih => exact .inr (hescape ih h (by simp))
  | case9 _ _ _ _ _ _ _ _ _ ih => exact .inr (hescape ih h (by simp))
  | case11 _ _ _ _ _ ih => exact .inr (hescape ih h (by simp))
  | case13 c cs hquote _ _ hself ih =>
    obtain ⟨⟨v, rest⟩, hread, heq⟩ := Option.map_eq_some_iff.1 h
    obtain ⟨rfl, rfl⟩ := Prod.mk.inj heq
    have hplain : isPlain c = true := by
      simp only [not_or, Nat.not_lt] at hself
      simp [isPlain, hself, show c ≠ '"' from hquote]
    rcases ih hread with ⟨rfl, hv⟩ | hlt
    · exact .inl ⟨rfl, by rw [List.all_cons, hplain, hv]; rfl⟩
    · exact .inr (by simp only [List.length_cons]; omega)
  | _ => cases h

theorem pos_of_expect {c : Char} {cs rest : List Char} (h : expect c cs = some rest) : 0 < cs.length := by
  cases cs with
  | nil => cases h
  | cons d cs => exact Nat.succ_pos _

end Json

namespace AckStatus

/-- The status that an acknowledgement holds. -/
def ofAck? (a : Acknowledgement) : Option AckStatus := a.bytes.text?.bind ofJson?

variable {s : AckStatus} {value : List Char}

theorem toList_encode (s : AckStatus) : s.encode.toList =
    '\x7b' :: '"' :: (s.key.toList ++ '"' :: ':' :: '"' :: (s.text.toList ++ ['"', '\x7d'])) := by
  simp [encode]

theorem key_isPlain (s : AckStatus) : s.key.toList.all Json.isPlain = true := by
  cases s with
  | success text =>
    show "result".toList.all Json.isPlain = true
    decide
  | failure text =>
    show "error".toList.all Json.isPlain = true
    decide

theorem ofKey?_eq_some : ofKey? s.key.toList value = some s ↔ value = s.text.toList := by
  have htext (t : String) : String.ofList value = t ↔ value = t.toList :=
    ⟨fun h => by rw [← h, String.toList_ofList], fun h => by rw [h, String.ofList_toList]⟩
  cases s <;> simp [ofKey?, key, text, htext]

/-- What is read depends on where the text of the status ends. -/
theorem read?_encode (s : AckStatus) : read? s.encode.toList =
    (do let (value, cs) ← Json.readString (s.text.toList ++ ['"', '\x7d'])
        let cs ← Json.expect '\x7d' cs
        if (Json.skipSpace cs).isEmpty then ofKey? s.key.toList value else none) := by
  rw [toList_encode]
  have hkey : Json.readString (s.key.toList ++ '"' :: ':' :: '"' :: (s.text.toList ++ ['"', '\x7d'])) =
      some (s.key.toList, ':' :: '"' :: (s.text.toList ++ ['"', '\x7d'])) :=
    Json.readString_append (key_isPlain s)
  simp [read?, Json.expect, Json.readStringToken, Json.skipSpace, Json.isSpace, hkey]

/-- A status comes back as it was exactly if every character of its text stands for itself. -/
theorem reads_back_iff (s : AckStatus) :
    ofAck? s.toAck = some s ↔ s.text.toList.all Json.isPlain = true := by
  have hread : ofAck? s.toAck = read? s.encode.toList := by
    simp [ofAck?, toAck, Bytes.text?_ofText, ofJson?]
  rw [hread, read?_encode]
  constructor
  · intro h
    simp only [Option.bind_eq_bind, Option.bind_eq_some_iff, Prod.exists] at h
    obtain ⟨value, rest, hvalue, cs, hrest, hend⟩ := h
    split at hend
    · obtain rfl := ofKey?_eq_some.1 hend
      have hpos := Json.pos_of_expect hrest
      rcases Json.readString_eq_some hvalue with ⟨-, hplain⟩ | hlt
      · exact hplain
      · rw [List.length_append, List.length_cons, List.length_singleton] at hlt
        omega
    · cases hend
  · intro h
    have hexpect : Json.expect '\x7d' ['\x7d'] = some [] := rfl
    have hkey : ofKey? s.key.toList s.text.toList = some s := ofKey?_eq_some.2 rfl
    rw [Json.readString_append h]
    simp only [Option.bind_eq_bind, Option.bind_some, hexpect, hkey]
    rfl

/-- A quote in the text ends it before its time, and an escape comes back as what it stands for. -/
theorem lost_when_quoted :
    checkText "a\"b" = .ok () ∧ ofAck? (failure "a\"b").toAck = none ∧
      checkText "\\n" = .ok () ∧ ofAck? (success "\\n").toAck = some (.success "\n") :=
  ⟨rfl, by decide +kernel, rfl, by decide +kernel⟩

end AckStatus

end ChannelLayer
