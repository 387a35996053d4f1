import ChannelLayer.Proofs.RoundTrip

/-!
# How names are spelled

Channels and connections are named after numbers, and a text is accepted as a name if a number reads from behind
its dash. Zeros in front of a number are turned down, a sign is not, and it lets any zeros pass behind it. So what
is accepted is the names themselves and, for each of them, other texts with a sign (`Identifier.check_eq_ok`):
one name has one spelling exactly where no sign is written (`one_spelling_iff`).
-/

set_option autoImplicit false

namespace ChannelLayer

/-! ## Digits -/

namespace Number

/-- The digits `ds` are those of the number `n`, with any zeros in front. -/
structure Spells (ds : List Char) (n : UInt64) : Prop where
  nonempty : ds ≠ []
  digits : ∀ c ∈ ds, c.isDigit = true
  value : Nat.ofDigitChars 10 ds 0 = n.toNat

theorem le_ofDigitChars (cs : List Char) (acc : Nat) : acc ≤ Nat.ofDigitChars 10 cs acc := by
  rw [Nat.ofDigitChars_eq_ofDigitChars_zero]
  have hpow : acc ≤ 10 ^ cs.length * acc := Nat.le_mul_of_pos_left acc (Nat.pow_pos (by decide))
  omega

theorem readDigits_eq_ok {acc n : Nat} {cs : List Char} (hacc : acc < UInt64.size) :
    readDigits acc cs = .ok n ↔
      (∀ c ∈ cs, c.isDigit = true) ∧ Nat.ofDigitChars 10 cs acc = n ∧ n < UInt64.size := by
  induction cs generalizing acc with
  | nil =>
    simp only [readDigits, Except.ok.injEq, Nat.ofDigitChars_nil]
    constructor
    · rintro rfl
      exact ⟨fun _ h => absurd h List.not_mem_nil, rfl, hacc⟩
    · exact fun h => h.2.1
  | cons c cs ih =>
    rw [readDigits, Nat.ofDigitChars_cons, List.forall_mem_cons]
    by_cases hc : c.isDigit = true
    · by_cases hnext : 10 * acc + (c.toNat - '0'.toNat) < UInt64.size
      · simp only [hc, if_true, hnext, ih hnext, true_and]
      · have hle := le_ofDigitChars cs (10 * acc + (c.toNat - '0'.toNat))
        simp only [hc, if_true, hnext, if_false, reduceCtorEq, true_and, false_iff]
        rintro ⟨-, hvalue, hlt⟩
        omega
    · simp [hc]

theorem map_readDigits_eq_ok {ds : List Char} {n : UInt64} (hne : ds ≠ []) :
    (readDigits 0 ds).map UInt64.ofNat = .ok n ↔ Spells ds n := by
  have hread : (readDigits 0 ds).map UInt64.ofNat = .ok n ↔ readDigits 0 ds = .ok n.toNat := by
    cases h : readDigits 0 ds with
    | error e => simp [Except.map]
    | ok k =>
      have hk := readDigits_lt (by decide) h
      simp only [Except.map, Except.ok.injEq]
      rw [← UInt64.toNat_inj, UInt64.toNat_ofNat_of_lt' hk]
  rw [hread, readDigits_eq_ok (by decide)]
  exact ⟨fun h => ⟨hne, h.1, h.2.1⟩, fun h => ⟨h.digits, h.value, n.toNat_lt⟩⟩

/-- A number reads from digits, and from a sign with digits behind it. -/
theorem read_eq_ok {cs : List Char} {n : UInt64} :
    read cs = .ok n ↔ Spells cs n ∨ ∃ ds, cs = '+' :: ds ∧ Spells ds n := by
  unfold read
  split
  · simp only [reduceCtorEq, false_iff, not_or, not_exists, not_and]
    exact ⟨fun h => h.nonempty rfl, fun ds hds => (nomatch hds)⟩
  · rename_i c cs
    rw [map_readDigits_eq_ok (List.cons_ne_nil c cs)]
    constructor
    · exact fun h => .inr ⟨_, rfl, h⟩
    · rintro (h | ⟨ds, hds, h⟩)
      · exact absurd (h.digits '+' (List.mem_cons_self ..)) (by decide)
      · obtain ⟨-, rfl⟩ := List.cons.inj hds
        exact h
  · rename_i hne hsigned
    rw [map_readDigits_eq_ok hne]
    refine ⟨.inl, fun h => h.resolve_right ?_⟩
    rintro ⟨ds, rfl, hds⟩
    obtain ⟨c, cs, rfl⟩ := List.exists_cons_of_ne_nil hds.nonempty
    exact hsigned c cs rfl

/-- A digit is the one that stands for its value. -/
theorem digitChar_toNat_sub {c : Char} (hc : c.isDigit = true) :
    c.toNat - '0'.toNat < 10 ∧ Nat.digitChar (c.toNat - '0'.toNat) = c := by
  simp only [Char.isDigit, Bool.and_eq_true, decide_eq_true_eq, ge_iff_le, UInt32.le_iff_toNat_le] at hc
  obtain ⟨hlow, hhigh⟩ := hc
  change 48 ≤ c.toNat at hlow
  change c.toNat ≤ 57 at hhigh
  have hzero : '0'.toNat = 48 := rfl
  refine ⟨by omega, Char.toNat_inj.1 ?_⟩
  rw [Nat.toNat_digitChar_of_lt_ten (by omega)]
  omega

theorem toDigits_append {cs : List Char} {acc : Nat} (hacc : 0 < acc)
    (hdigits : ∀ c ∈ cs, c.isDigit = true) :
    Nat.toDigits 10 acc ++ cs = Nat.toDigits 10 (Nat.ofDigitChars 10 cs acc) := by
  induction cs generalizing acc with
  | nil => simp
  | cons c cs ih =>
    obtain ⟨hc, hcs⟩ := List.forall_mem_cons.1 hdigits
    obtain ⟨hlt, hchar⟩ := digitChar_toNat_sub hc
    have hone : Nat.toDigits 10 (c.toNat - '0'.toNat) = [c] := by rw [Nat.toDigits_of_lt_base hlt, hchar]
    rw [Nat.ofDigitChars_cons, ← ih (by omega) hcs, ← Nat.toDigits_append_toDigits (by decide) hacc hlt, hone,
      List.append_assoc, List.singleton_append]

/-- Digits without a leading zero are those that the number is written in. -/
theorem Spells.eq_toDigits {ds : List Char} {n : UInt64} (h : Spells ds n)
    (hzero : Identifier.hasLeadingZero ds = false) : ds = Nat.toDigits 10 n.toNat := by
  obtain ⟨c, cs, rfl⟩ := List.exists_cons_of_ne_nil h.nonempty
  obtain ⟨hc, hcs⟩ := List.forall_mem_cons.1 h.digits
  obtain ⟨hlt, hchar⟩ := digitChar_toNat_sub hc
  have hone : Nat.toDigits 10 (c.toNat - '0'.toNat) = [c] := by rw [Nat.toDigits_of_lt_base hlt, hchar]
  have hvalue := h.value
  rw [Nat.ofDigitChars_cons, Nat.mul_zero, Nat.zero_add] at hvalue
  rw [← hvalue]
  rcases Nat.eq_zero_or_pos (c.toNat - '0'.toNat) with hnull | hpos
  · -- A zero stands alone.
    rw [hnull] at hchar hone
    obtain rfl : '0' = c := hchar
    cases cs with
    | nil => rw [hnull, Nat.ofDigitChars_nil, hone]
    | cons d cs => cases hzero
  · rw [← toDigits_append hpos hcs, hone, List.singleton_append]

/-- Only zero is written with a zero in front. -/
theorem head?_toDigits {n : Nat} (hpos : 0 < n) : (Nat.toDigits 10 n).head? ≠ some '0' := by
  induction n using Nat.strongRecOn with
  | ind n ih =>
    rcases Nat.lt_or_ge n 10 with hlt | hle
    · rw [Nat.toDigits_of_lt_base hlt]
      simp only [List.head?_cons, ne_eq, Option.some.injEq, Nat.digitChar_eq_zero]
      omega
    · have hrest := ih (n / 10) (by omega) (by omega)
      rw [Nat.toDigits_of_base_le (by decide) hle, List.head?_append]
      cases hdigits : Nat.toDigits 10 (n / 10) with
      | nil => exact absurd hdigits Nat.toDigits_ne_nil
      | cons c cs =>
        rw [hdigits] at hrest
        exact hrest

/-- A number is written without leading zeros. -/
theorem hasLeadingZero_toDigits (n : Nat) : Identifier.hasLeadingZero (Nat.toDigits 10 n) = false := by
  rcases Nat.eq_zero_or_pos n with rfl | hpos
  · rfl
  · have hhead := head?_toDigits hpos
    revert hhead
    unfold Identifier.hasLeadingZero
    split
    · rename_i heq
      rw [heq]
      exact fun h => absurd rfl h
    · exact fun _ => rfl

theorem spells_toDigits (n : UInt64) : Spells (Nat.toDigits 10 n.toNat) n where
  nonempty := Nat.toDigits_ne_nil
  digits _ hc := Nat.isDigit_of_mem_toDigits (by decide) (by decide) hc
  value := Nat.ofDigitChars_ten_toDigits

end Number

/-! ## What stands behind the dash -/

namespace Identifier

theorem isPrefixOf?_eq_some {xs ys zs : List Char} : xs.isPrefixOf? ys = some zs ↔ ys = xs ++ zs := by
  induction xs generalizing ys with
  | nil => exact ⟨Option.some.inj, congrArg some⟩
  | cons x xs ih =>
    cases ys with
    | nil => exact ⟨nofun, nofun⟩
    | cons y ys =>
      have hstep : (x :: xs).isPrefixOf? (y :: ys) = if x == y then xs.isPrefixOf? ys else none := rfl
      rw [hstep, List.cons_append, List.cons.injEq]
      by_cases hxy : x = y
      · simp [hxy, ih]
      · simp [hxy, Ne.symm hxy]

theorem counterText?_eq_some {name id : String} {ds : List Char} :
    counterText? name id = some ds ↔ id.toList = name.toList ++ '-' :: ds := by
  rw [counterText?, isPrefixOf?_eq_some, List.append_assoc, List.singleton_append]

theorem eq_numbered_iff {name id : String} {n : UInt64} :
    id = numbered name n ↔ counterText? name id = some (Nat.toDigits 10 n.toNat) := by
  rw [counterText?_eq_some, ← String.toList_inj]
  simp [numbered, decimal]

/-- `id` is `name-+digits`. -/
def Signed (name id : String) : Prop :=
  ∃ ds n, counterText? name id = some ('+' :: ds) ∧ Number.Spells ds n

theorem checkNumbered_eq_ok {id name : String} :
    checkNumbered id name = .ok () ↔ (∃ n, id = numbered name n) ∨ Signed name id := by
  simp only [eq_numbered_iff, Signed, checkNumbered]
  cases counterText? name id with
  | none => simp
  | some text =>
    simp only [Option.some.injEq]
    constructor
    · intro h
      split at h
      · cases h
      rename_i hzero
      split at h
      · rename_i n hread
        rcases Number.read_eq_ok.1 hread with hspells | ⟨ds, rfl, hspells⟩
        · exact .inl ⟨n, hspells.eq_toDigits (by simpa using hzero)⟩
        · exact .inr ⟨ds, n, rfl, hspells⟩
      · cases h
    · rintro (⟨n, rfl⟩ | ⟨ds, n, rfl, hspells⟩)
      · rw [Number.read_eq_ok.2 (.inl (Number.spells_toDigits n)), Number.hasLeadingZero_toDigits]
        rfl
      · rw [Number.read_eq_ok.2 (.inr ⟨ds, rfl, hspells⟩)]
        rfl

theorem counter?_numbered (name : String) (n : UInt64) : counter? name (numbered name n) = some n := by
  have htext : counterText? name (numbered name n) = some (Nat.toDigits 10 n.toNat) := eq_numbered_iff.1 rfl
  simp [counter?, htext, Number.read_eq_ok.2 (.inl (Number.spells_toDigits n)), Except.toOption]

/-! ## What is accepted -/

theorem isAllowed_of_isDigit {c : Char} (h : c.isDigit = true) : isAllowed c = true := by
  have halphanum : c.isAlphanum = (c.isAlpha || c.isDigit) := rfl
  rw [isAllowed, halphanum, h, Bool.or_true, Bool.true_or]

/-- What an identifier is made of takes one byte each. -/
theorem utf8Size_of_isAllowed {c : Char} (h : isAllowed c = true) : c.utf8Size = 1 := by
  rw [Char.utf8Size_eq_one_iff]
  rw [isAllowed, Bool.or_eq_true] at h
  rcases h with halphanum | hsign
  · have hsorts : ((c.isUpper || c.isLower) || c.isDigit) = true := halphanum
    rw [Bool.or_eq_true, Bool.or_eq_true] at hsorts
    rcases hsorts with (hupper | hlower) | hdigit
    · have hle : c.val ≤ 'Z'.val := (of_decide_eq_true hupper).2
      exact Nat.le_trans hle (by decide)
    · have hle : c.val ≤ 'z'.val := of_decide_eq_true (Bool.and_eq_true_iff.1 hlower).2
      exact Nat.le_trans hle (by decide)
    · have hle : c.val ≤ '9'.val := of_decide_eq_true (Bool.and_eq_true_iff.1 hdigit).2
      exact Nat.le_trans hle (by decide)
  · simp only [List.contains_iff_mem, List.mem_cons, List.not_mem_nil, or_false] at hsign
    rcases hsign with rfl | rfl | rfl | rfl | rfl | rfl | rfl | rfl | rfl <;> decide

theorem utf8ByteSize_ofList {cs : List Char} (h : cs.all isAllowed = true) :
    (String.ofList cs).utf8ByteSize = cs.length := by
  induction cs with
  | nil => rfl
  | cons c cs ih =>
    rw [List.all_cons, Bool.and_eq_true] at h
    rw [← List.singleton_append, String.ofList_append, String.utf8ByteSize_append, ih h.2,
      ← String.singleton_eq_ofList, String.utf8ByteSize_singleton, utf8Size_of_isAllowed h.1, List.length_append]
    rfl

theorem checkCharacters_eq_ok {id : String} : checkCharacters id = .ok () ↔ id.toList.all isAllowed = true := by
  simp [checkCharacters]

theorem checkLength_eq_ok {id : String} {min max : Nat} (h : id.toList.all isAllowed = true) :
    checkLength id min max = .ok () ↔ Nat.max min 1 ≤ id.toList.length ∧ id.toList.length ≤ max := by
  have hsize : id.utf8ByteSize = id.toList.length := by
    rw [← utf8ByteSize_ofList h, String.ofList_toList]
  unfold checkLength
  rw [hsize, ite_else_error_eq_ok]
  exact and_iff_left rfl

/-- `id` has a sign and is not longer than a name may be. -/
def Doubled (name id : String) : Prop := Signed name id ∧ id.toList.length ≤ 64

theorem toList_of_counterText? {name id : String} {rest : List Char} (h : counterText? name id = some rest)
    (hname : name.toList.all isAllowed = true) (hrest : rest.all isAllowed = true) :
    id.toList.all isAllowed = true ∧ id.toList.length = name.toList.length + 1 + rest.length := by
  rw [counterText?_eq_some.1 h, List.all_append, List.all_cons, hname, hrest, List.length_append,
    List.length_cons]
  exact ⟨by decide, by omega⟩

/-- What is accepted as a name is the name of a number, or has a sign before it. -/
theorem check_eq_ok {name id : String} {min : Nat} (hname : name.toList.all isAllowed = true)
    (hmin : min ≤ name.toList.length + 2) (hmax : name.toList.length ≤ 43) :
    (do checkCharacters id; checkLength id min 64; checkNumbered id name) = .ok () ↔
      (∃ n, id = numbered name n) ∨ Doubled name id := by
  have hparts : (do checkCharacters id; checkLength id min 64; checkNumbered id name) = .ok () ↔
      checkCharacters id = .ok () ∧ checkLength id min 64 = .ok () ∧ checkNumbered id name = .ok () := by
    simp
  rw [hparts, checkCharacters_eq_ok, checkNumbered_eq_ok]
  have hdigits {ds : List Char} {n : UInt64} (hspells : Number.Spells ds n) : ds.all isAllowed = true :=
    List.all_eq_true.2 fun c hc => isAllowed_of_isDigit (hspells.digits c hc)
  constructor
  · rintro ⟨hallowed, hlength, hnumber | hsigned⟩
    · exact .inl hnumber
    · exact .inr ⟨hsigned, ((checkLength_eq_ok hallowed).1 hlength).2⟩
  · rintro (⟨n, hn⟩ | ⟨⟨ds, n, htext, hspells⟩, hlength⟩)
    · obtain ⟨hallowed, hsize⟩ :=
        toList_of_counterText? (eq_numbered_iff.1 hn) hname (hdigits (Number.spells_toDigits n))
      have hpos : 0 < (Nat.toDigits 10 n.toNat).length := Nat.length_toDigits_pos
      have hle : (Nat.toDigits 10 n.toNat).length ≤ 20 :=
        (Nat.length_toDigits_le_iff (by decide) (by decide)).2 (Nat.lt_trans n.toNat_lt (by decide))
      refine ⟨hallowed, (checkLength_eq_ok hallowed).2 ?_, .inl ⟨n, hn⟩⟩
      rw [hsize, Nat.max_le]
      omega
    · have hrest : ('+' :: ds).all isAllowed = true := by
        rw [List.all_cons, hdigits hspells]
        rfl
      obtain ⟨hallowed, hsize⟩ := toList_of_counterText? htext hname hrest
      rw [List.length_cons] at hsize
      refine ⟨hallowed, (checkLength_eq_ok hallowed).2 ?_, .inr ⟨ds, n, htext, hspells⟩⟩
      rw [Nat.max_le]
      omega

theorem not_doubled_numbered (name : String) (n : UInt64) : ¬Doubled name (numbered name n) := by
  rintro ⟨⟨ds, m, htext, -⟩, -⟩
  have hdigits := eq_numbered_iff.1 (rfl : numbered name n = numbered name n)
  have hsign := Nat.isDigit_of_mem_toDigits (b := 10) (n := n.toNat) (c := '+') (by decide) (by decide) (by
    rw [← Option.some.inj (htext.symm.trans hdigits)]
    exact List.mem_cons_self ..)
  exact absurd hsign (by decide)

/-- A name with a sign has the counter that the name without it has. -/
theorem counter?_of_doubled {name id : String} (h : Doubled name id) : ∃ n, counter? name id = some n := by
  obtain ⟨⟨ds, n, htext, hspells⟩, -⟩ := h
  exact ⟨n, by simp [counter?, htext, Number.read_eq_ok.2 (.inr ⟨ds, rfl, hspells⟩), Except.toOption]⟩

theorem checkChannel_eq_ok {id : String} :
    checkChannel id = .ok () ↔ (∃ n, id = numbered "channel" n) ∨ Doubled "channel" id :=
  check_eq_ok (by decide) (by decide) (by decide)

theorem checkConnection_eq_ok {id : String} :
    checkConnection id = .ok () ↔ (∃ n, id = numbered "connection" n) ∨ Doubled "connection" id :=
  check_eq_ok (by decide) (by decide) (by decide)

/-- Where names and texts with a sign are accepted, names alone are if there is no sign. -/
theorem accepts_names_iff {name id : String} {accepted : Prop}
    (h : accepted ↔ (∃ n, id = numbered name n) ∨ Doubled name id) :
    (accepted ↔ ∃ n, id = numbered name n) ↔ ¬Doubled name id := by
  constructor
  · intro hnames hdoubled
    obtain ⟨n, rfl⟩ := hnames.1 (h.2 (.inr hdoubled))
    exact not_doubled_numbered name n hdoubled
  · intro hplain
    exact h.trans (or_iff_left hplain)

end Identifier

/-! ## Names -/

theorem ChannelId.exists_ofText_eq_ok {s : String} :
    (∃ id, ofText s = .ok id) ↔ Identifier.checkChannel s = .ok () := by
  constructor
  · rintro ⟨id, h⟩
    obtain ⟨hvalid, rfl⟩ := ofText_eq_ok.1 h
    exact hvalid
  · exact fun h => ⟨⟨s⟩, ofText_eq_ok.2 ⟨h, rfl⟩⟩

theorem ConnectionId.exists_ofText_eq_ok {s : String} :
    (∃ id, ofText s = .ok id) ↔ Identifier.checkConnection s = .ok () := by
  constructor
  · rintro ⟨id, h⟩
    obtain ⟨hvalid, rfl⟩ := ofText_eq_ok.1 h
    exact hvalid
  · exact fun h => ⟨⟨s⟩, ofText_eq_ok.2 ⟨h, rfl⟩⟩

theorem ChannelId.valid_numbered (n : UInt64) : (numbered n).Valid :=
  Identifier.checkChannel_eq_ok.2 (.inl ⟨n, rfl⟩)

theorem ChannelId.counter?_numbered (n : UInt64) : (numbered n).counter? = some n :=
  Identifier.counter?_numbered "channel" n

theorem ChannelId.Valid.numbered_or_doubled {id : ChannelId} (h : id.Valid) :
    (∃ n, id = .numbered n) ∨ Identifier.Doubled "channel" id.text :=
  (Identifier.checkChannel_eq_ok.1 h).imp_left fun ⟨n, hn⟩ => ⟨n, congrArg mk hn⟩

/-- The names of channels and of connections are those of numbers exactly where there is no sign, and so is a
counter that of one channel; with a sign every counter is that of a second one. -/
theorem one_spelling_iff (s : String) :
    (((∃ id, ChannelId.ofText s = .ok id) ↔ ∃ n, s = (ChannelId.numbered n).text) ↔
      ¬Identifier.Doubled "channel" s) ∧
    (((∃ id, ConnectionId.ofText s = .ok id) ↔ ∃ n, s = (ConnectionId.numbered n).text) ↔
      ¬Identifier.Doubled "connection" s) ∧
    (∀ n, (ChannelId.numbered n).counter? = some n) ∧
    (∀ id id' : ChannelId, id.Valid → id'.Valid → id.counter? = id'.counter? →
      id = id' ∨ Identifier.Doubled "channel" id.text ∨ Identifier.Doubled "channel" id'.text) ∧
    ∀ id : ChannelId, Identifier.Doubled "channel" id.text →
      id.Valid ∧ ∃ n, id ≠ .numbered n ∧ (ChannelId.numbered n).counter? = id.counter? := by
  refine ⟨?_, ?_, ChannelId.counter?_numbered, ?_, ?_⟩
  · exact Identifier.accepts_names_iff
      (ChannelId.exists_ofText_eq_ok.trans Identifier.checkChannel_eq_ok)
  · exact Identifier.accepts_names_iff
      (ConnectionId.exists_ofText_eq_ok.trans Identifier.checkConnection_eq_ok)
  · intro id id' hid hid' hcounter
    rcases hid.numbered_or_doubled with ⟨n, rfl⟩ | hdoubled
    · rcases hid'.numbered_or_doubled with ⟨n', rfl⟩ | hdoubled'
      · rw [ChannelId.counter?_numbered, ChannelId.counter?_numbered] at hcounter
        exact .inl (congrArg ChannelId.numbered (Option.some.inj hcounter))
      · exact .inr (.inr hdoubled')
    · exact .inr (.inl hdoubled)
  · intro id hdoubled
    obtain ⟨n, hn⟩ := Identifier.counter?_of_doubled hdoubled
    refine ⟨Identifier.checkChannel_eq_ok.2 (.inr hdoubled), n, ?_, ?_⟩
    · rintro rfl
      exact Identifier.not_doubled_numbered "channel" n hdoubled
    · rw [ChannelId.counter?_numbered]
      exact hn.symm

/-- The channel with the number five, with a sign and zeros. -/
def signedFive : ChannelId := ⟨"channel-+05"⟩

theorem doubled_signedFive : Identifier.Doubled "channel" signedFive.text :=
  ⟨⟨['0', '5'], 5, by decide, by decide, List.all_eq_true.1 rfl, by decide⟩, by decide⟩

/-- Two channels have the counter five, as one of them has a sign. -/
theorem doubled_of_two_fives : signedFive.Valid ∧ (ChannelId.numbered 5).Valid ∧
    signedFive.counter? = (ChannelId.numbered 5).counter? ∧
    (signedFive = .numbered 5 ∨ Identifier.Doubled "channel" signedFive.text ∨
      Identifier.Doubled "channel" (ChannelId.numbered 5).text) := by
  have hvalid : signedFive.Valid := by decide
  have hnumbered := ChannelId.valid_numbered 5
  have hcounter : signedFive.counter? = (ChannelId.numbered 5).counter? := by decide
  exact ⟨hvalid, hnumbered, hcounter, (one_spelling_iff signedFive.text).2.2.2.1 _ _ hvalid hnumbered hcounter⟩

/-- A text with a sign is accepted that is not the name of a number, and it has the counter of one. -/
theorem sign_makes_second_name : ChannelId.ofText "channel-+05" = .ok signedFive ∧
    (∀ n, signedFive.text ≠ (ChannelId.numbered n).text) ∧
    ChannelId.ofText "channel-5" = .ok (.numbered 5) ∧
    signedFive.counter? = some 5 ∧ (ChannelId.numbered 5).counter? = some 5 := by
  refine ⟨by decide, fun n hn => ?_, by decide, by decide, by decide⟩
  have hdoubled := doubled_signedFive
  rw [hn] at hdoubled
  exact Identifier.not_doubled_numbered "channel" n hdoubled

end ChannelLayer
