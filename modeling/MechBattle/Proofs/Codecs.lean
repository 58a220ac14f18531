/-
Codecs that neither lose nor invent anything.

An exact codec reads back what it wrote, whatever follows, and reads nothing
else. Codecs put together from exact ones are exact.

* `Codec.Exact`: lawful and canonical at once;
* `Codec.exact_word`, `exact_counter`, `exact_flag`, `exact_text`: codecs of
  single values;
* `Codec.Exact.map`, `pair`, `option`, `list`: codecs from codecs;
* `Codec.exact_choice`, `Codec.exact_oneOf`: one of some values, and one of some
  alternatives that exclude each other;
* `Codec.Exact.eq_of_prefix`, `Codec.Exact.read_cut`: bytes begin with the written form of
  at most one value, and a written form that is cut short is not read.
-/
import MechBattle.Log.Codec
import MechBattle.Proofs.Spelling

namespace MechBattle

/-- What two steps come to, one step at a time. -/
lemma bind_eq_ok {ε α β : Type} {m : Except ε α} {f : α → Except ε β} {b : β} :
    (m >>= f) = .ok b ↔ ∃ a, m = .ok a ∧ f a = .ok b := by
  cases m with
  | error e =>
      constructor
      · intro h
        cases h
      · rintro ⟨a, h, -⟩
        cases h
  | ok a =>
      constructor
      · intro h
        exact ⟨a, rfl, h⟩
      · rintro ⟨_, ⟨⟩, h⟩
        exact h

namespace Codec

variable {α β : Type} {c : Codec α} {d : Codec β}

/-- A codec that reads what it wrote, and nothing else. -/
structure Exact (c : Codec α) : Prop where
  lawful : c.Lawful
  canonical : c.Canonical

/-! ### Single values -/

lemma exact_nothing : nothing.Exact where
  lawful _ _ _ := rfl
  canonical bytes a rest h := by
    cases h
    exact ⟨trivial, rfl⟩

lemma readWord_wordBytes (width n : Nat) (rest : List UInt8) (h : n < 256 ^ width) :
    readWord width (wordBytes width n ++ rest) = .ok (n, rest) := by
  induction width generalizing n with
  | zero =>
      obtain rfl : n = 0 := by omega
      rfl
  | succ width ih =>
      have hhigh : n / 256 < 256 ^ width := by
        rw [pow_succ] at h
        omega
      have hlow : (UInt8.ofNat (n % 256)).toNat + 256 * (n / 256) = n := by
        rw [Utf8.toNat_ofNat_byte (by omega)]
        omega
      rw [wordBytes, List.cons_append, readWord, ih _ hhigh]
      show Except.ok ((UInt8.ofNat (n % 256)).toNat + 256 * (n / 256), rest) = _
      rw [hlow]

lemma eq_wordBytes_of_readWord {width n : Nat} {bytes rest : List UInt8}
    (h : readWord width bytes = .ok (n, rest)) :
    n < 256 ^ width ∧ bytes = wordBytes width n ++ rest := by
  induction width generalizing bytes n with
  | zero =>
      cases h
      exact ⟨Nat.zero_lt_one, rfl⟩
  | succ width ih =>
      cases bytes with
      | nil => cases h
      | cons b bytes =>
          rw [readWord, bind_eq_ok] at h
          obtain ⟨⟨high, rest'⟩, hhigh, h⟩ := h
          cases h
          obtain ⟨hlt, rfl⟩ := ih hhigh
          have hb : b.toNat < 256 := b.toNat_lt
          have hmod : (b.toNat + 256 * high) % 256 = b.toNat := by omega
          have hdiv : (b.toNat + 256 * high) / 256 = high := by omega
          refine ⟨?_, ?_⟩
          · rw [pow_succ]
            omega
          · rw [wordBytes, hmod, hdiv, UInt8.ofNat_toNat, List.cons_append]

lemma exact_word (width : Nat) : (word width).Exact where
  lawful n rest h := readWord_wordBytes width n rest h
  canonical _ _ _ h := eq_wordBytes_of_readWord h

lemma read_map_eq_ok (pack : α → β) (unpack : β → α) {bytes rest : List UInt8} {b : β} :
    (c.map pack unpack).read bytes = .ok (b, rest) ↔
      ∃ a, c.read bytes = .ok (a, rest) ∧ pack a = b := by
  constructor
  · intro h
    obtain ⟨⟨a, rest'⟩, ha, h⟩ := bind_eq_ok.mp h
    cases h
    exact ⟨a, ha, rfl⟩
  · rintro ⟨a, ha, rfl⟩
    exact bind_eq_ok.mpr ⟨(a, rest), ha, rfl⟩

lemma counterOfWord_wordOfCounter {n : Int} (h : Counter.Mem n) :
    counterOfWord (wordOfCounter n) = n := by
  simp only [Counter.Mem, Counter.least, Counter.greatest] at h
  rw [counterOfWord, wordOfCounter]
  split <;> omega

lemma wordOfCounter_counterOfWord {w : Nat} (h : w < 256 ^ 4) :
    Counter.Mem (counterOfWord w) ∧ wordOfCounter (counterOfWord w) = w := by
  simp only [Counter.Mem, Counter.least, Counter.greatest, counterOfWord, wordOfCounter]
  split <;> omega

lemma exact_counter : counter.Exact where
  lawful n rest h := by
    have hw : wordOfCounter n < 256 ^ 4 := by
      rw [wordOfCounter]
      omega
    exact (read_map_eq_ok counterOfWord wordOfCounter).mpr
      ⟨_, (exact_word 4).lawful _ rest hw, counterOfWord_wordOfCounter h⟩
  canonical bytes n rest h := by
    obtain ⟨w, hw, rfl⟩ := (read_map_eq_ok counterOfWord wordOfCounter).mp h
    obtain ⟨hlt, rfl⟩ := (exact_word 4).canonical _ _ _ hw
    obtain ⟨hmem, hback⟩ := wordOfCounter_counterOfWord hlt
    refine ⟨hmem, ?_⟩
    show (word 4).write w ++ rest = (word 4).write (wordOfCounter (counterOfWord w)) ++ rest
    rw [hback]

lemma exact_flag : flag.Exact where
  lawful b rest _ := by cases b <;> rfl
  canonical bytes b rest h := by
    cases bytes with
    | nil => cases h
    | cons x bytes =>
        refine ⟨trivial, ?_⟩
        simp only [flag] at h
        split at h
        · next hx =>
            cases h
            rw [← Utf8.ofNat_eq hx.symm]
            rfl
        · next hx =>
            cases h
            rw [← Utf8.ofNat_eq hx.symm]
            rfl
        · cases h

/-- A text is read when its length is, and the bytes behind it are those of the
text. -/
lemma read_text_eq_ok {bytes rest : List UInt8} {s : String} :
    text.read bytes = .ok (s, rest) ↔
      readWord 8 bytes = .ok ((Utf8.encode s).length, Utf8.encode s ++ rest) := by
  constructor
  · intro h
    obtain ⟨⟨length, body⟩, hlength, h⟩ := bind_eq_ok.mp h
    dsimp only at h
    split at h
    · cases h
    · next hlong =>
        split at h
        · next s' hs =>
            cases h
            have hfront := Utf8.encode_of_decode hs
            have hlen : (Utf8.encode s).length = length := by
              rw [hfront]
              exact le_antisymm (List.length_take_le _ _) (Nat.le_of_not_lt hlong)
            rw [hlength, hlen, hfront, List.take_append_drop]
        · cases h
  · intro h
    refine bind_eq_ok.mpr ⟨_, h, ?_⟩
    have hfront : (Utf8.encode s ++ rest).take (Utf8.encode s).length = Utf8.encode s :=
      List.take_left
    have hback : (Utf8.encode s ++ rest).drop (Utf8.encode s).length = rest := List.drop_left
    simp only [hfront, hback, lt_irrefl, if_false, Utf8.decode_encode]

lemma exact_text : text.Exact where
  lawful s rest h := by
    rw [read_text_eq_ok, text, List.append_assoc]
    exact readWord_wordBytes 8 _ _ h
  canonical bytes s rest h := by
    obtain ⟨hlength, rfl⟩ := eq_wordBytes_of_readWord (read_text_eq_ok.mp h)
    exact ⟨hlength, (List.append_assoc ..).symm⟩

/-! ### Codecs from codecs -/

lemma Exact.map (h : c.Exact) {pack : α → β} {unpack : β → α} (hpack : ∀ b, pack (unpack b) = b)
    (hunpack : ∀ a, unpack (pack a) = a) : (c.map pack unpack).Exact where
  lawful b rest hb := (read_map_eq_ok pack unpack).mpr ⟨_, h.lawful _ rest hb, hpack b⟩
  canonical bytes b rest hread := by
    obtain ⟨a, ha, rfl⟩ := (read_map_eq_ok pack unpack).mp hread
    obtain ⟨hfits, rfl⟩ := h.canonical _ _ _ ha
    show c.Fits (unpack (pack a)) ∧ c.write a ++ rest = c.write (unpack (pack a)) ++ rest
    rw [hunpack]
    exact ⟨hfits, rfl⟩

lemma read_pair_eq_ok {bytes rest : List UInt8} {p : α × β} :
    (c.pair d).read bytes = .ok (p, rest) ↔
      ∃ between, c.read bytes = .ok (p.1, between) ∧ d.read between = .ok (p.2, rest) := by
  constructor
  · intro h
    obtain ⟨⟨a, between⟩, ha, h⟩ := bind_eq_ok.mp h
    obtain ⟨⟨b, rest'⟩, hb, h⟩ := bind_eq_ok.mp h
    cases h
    exact ⟨between, ha, hb⟩
  · rintro ⟨between, ha, hb⟩
    exact bind_eq_ok.mpr ⟨_, ha, bind_eq_ok.mpr ⟨_, hb, rfl⟩⟩

lemma Exact.pair (hc : c.Exact) (hd : d.Exact) : (c.pair d).Exact where
  lawful p rest h := by
    refine read_pair_eq_ok.mpr ⟨d.write p.2 ++ rest, ?_, hd.lawful _ _ h.2⟩
    rw [Codec.pair, List.append_assoc]
    exact hc.lawful _ _ h.1
  canonical bytes p rest h := by
    obtain ⟨between, ha, hb⟩ := read_pair_eq_ok.mp h
    obtain ⟨hfst, rfl⟩ := hc.canonical _ _ _ ha
    obtain ⟨hsnd, rfl⟩ := hd.canonical _ _ _ hb
    exact ⟨⟨hfst, hsnd⟩, (List.append_assoc ..).symm⟩

lemma Exact.option (h : c.Exact) : c.option.Exact where
  lawful
    | none, _, _ => rfl
    | some a, rest, ha => bind_eq_ok.mpr ⟨_, h.lawful a rest ha, rfl⟩
  canonical bytes o rest hread := by
    cases bytes with
    | nil => cases hread
    | cons x bytes =>
        simp only [Codec.option] at hread
        split at hread
        · next hx =>
            cases hread
            rw [← Utf8.ofNat_eq hx.symm]
            exact ⟨trivial, rfl⟩
        · next hx =>
            obtain ⟨⟨a, rest'⟩, ha, heq⟩ := bind_eq_ok.mp hread
            cases heq
            obtain ⟨hfits, rfl⟩ := h.canonical _ _ _ ha
            rw [← Utf8.ofNat_eq hx.symm]
            exact ⟨hfits, rfl⟩
        · cases hread

lemma Exact.readMany_flatMap (h : c.Exact) (as : List α) (rest : List UInt8)
    (has : ∀ a ∈ as, c.Fits a) :
    readMany c as.length (as.flatMap c.write ++ rest) = .ok (as, rest) := by
  induction as with
  | nil => rfl
  | cons a as ih =>
      rw [List.forall_mem_cons] at has
      rw [List.flatMap_cons, List.append_assoc, List.length_cons, readMany]
      exact bind_eq_ok.mpr ⟨_, h.lawful a _ has.1, bind_eq_ok.mpr ⟨_, ih has.2, rfl⟩⟩

lemma Exact.of_readMany (h : c.Exact) {n : Nat} {bytes rest : List UInt8} {as : List α}
    (hread : readMany c n bytes = .ok (as, rest)) :
    as.length = n ∧ (∀ a ∈ as, c.Fits a) ∧ bytes = as.flatMap c.write ++ rest := by
  induction n generalizing bytes as with
  | zero =>
      cases hread
      exact ⟨rfl, List.forall_mem_nil _, rfl⟩
  | succ n ih =>
      obtain ⟨⟨a, between⟩, ha, hread⟩ := bind_eq_ok.mp hread
      obtain ⟨⟨as', rest'⟩, has, heq⟩ := bind_eq_ok.mp hread
      cases heq
      obtain ⟨hfits, rfl⟩ := h.canonical _ _ _ ha
      obtain ⟨rfl, hall, rfl⟩ := ih has
      refine ⟨rfl, List.forall_mem_cons.mpr ⟨hfits, hall⟩, ?_⟩
      rw [List.flatMap_cons, List.append_assoc]

lemma Exact.list (h : c.Exact) : c.list.Exact where
  lawful as rest has := by
    rw [Codec.list, List.append_assoc]
    exact bind_eq_ok.mpr
      ⟨_, readWord_wordBytes 8 _ _ has.1, h.readMany_flatMap as rest has.2⟩
  canonical bytes as rest hread := by
    obtain ⟨⟨n, body⟩, hn, hread⟩ := bind_eq_ok.mp hread
    obtain ⟨rfl, hall, rfl⟩ := h.of_readMany hread
    obtain ⟨hlength, rfl⟩ := eq_wordBytes_of_readWord hn
    exact ⟨⟨hlength, hall⟩, (List.append_assoc ..).symm⟩

/-! ### One of several -/

/-- Values without repetition are told apart by their index. -/
lemma exact_choice [BEq α] [LawfulBEq α] {values : List α} (nodup : values.Nodup)
    (few : values.length ≤ 256 ^ 4) : (choice values).Exact where
  lawful a rest ha := by
    have ha : a ∈ values := ha
    have hindex : values.idxOf a < values.length := List.idxOf_lt_length_of_mem ha
    refine bind_eq_ok.mpr ⟨_, readWord_wordBytes 4 _ rest (hindex.trans_le few), ?_⟩
    simp only [List.getElem?_eq_getElem hindex, List.getElem_idxOf hindex]
  canonical bytes a rest h := by
    obtain ⟨⟨index, rest'⟩, hread, h⟩ := bind_eq_ok.mp h
    dsimp only at h
    split at h
    · next a' ha =>
        cases h
        obtain ⟨-, rfl⟩ := eq_wordBytes_of_readWord hread
        obtain ⟨hindex, rfl⟩ := List.getElem?_eq_some_iff.mp ha
        refine ⟨List.getElem_mem hindex, ?_⟩
        show _ = wordBytes 4 (values.idxOf values[index]) ++ rest
        rw [nodup.idxOf_getElem]
    · cases h

/-- An alternative with an exact codec, whose values are told from all others. -/
structure Alternative.Exact (x : Alternative β) : Prop where
  codec : x.codec.Exact
  make_content : ∀ {b a}, x.content? b = some a → x.make a = b
  content_make : ∀ a, x.content? (x.make a) = some a

/-- No value is of the form of both. -/
def Alternative.Excludes (x y : Alternative β) : Prop := ∀ a, x.content? (y.make a) = none

/-- A value that fits is written with the index of its alternative. -/
lemma exists_of_fitsOneOf {alternatives : List (Alternative β)} {b : β}
    (h : FitsOneOf alternatives b) (start : Nat) :
    ∃ i x a, alternatives[i]? = some x ∧ x.content? b = some a ∧ x.codec.Fits a ∧
      writeOneOf start alternatives b = wordBytes 4 (start + i) ++ x.codec.write a := by
  induction alternatives generalizing start with
  | nil => cases h
  | cons x rest ih =>
      rw [FitsOneOf] at h
      cases ha : x.content? b with
      | some a =>
          simp only [ha] at h
          refine ⟨0, x, a, rfl, ha, h, ?_⟩
          simp only [writeOneOf, ha, Nat.add_zero]
      | none =>
          simp only [ha] at h
          obtain ⟨i, y, a, hi, hy, hfits, hwrite⟩ := ih h (start + 1)
          refine ⟨i + 1, y, a, hi, hy, hfits, ?_⟩
          simp only [writeOneOf, ha, hwrite]
          rw [Nat.add_assoc, Nat.add_comm 1]

/-- What an alternative makes is written with its index. -/
lemma writeOneOf_make {alternatives : List (Alternative β)}
    (exact : ∀ x ∈ alternatives, x.Exact)
    (apart : alternatives.Pairwise Alternative.Excludes) {i : Nat} {x : Alternative β}
    (hi : alternatives[i]? = some x) {a : x.Content} (fits : x.codec.Fits a) (start : Nat) :
    FitsOneOf alternatives (x.make a) ∧
      writeOneOf start alternatives (x.make a) = wordBytes 4 (start + i) ++ x.codec.write a := by
  induction alternatives generalizing i start with
  | nil => cases hi
  | cons y rest ih =>
      rw [List.forall_mem_cons] at exact
      rw [List.pairwise_cons] at apart
      cases i with
      | zero =>
          obtain rfl : y = x := Option.some.inj hi
          simp only [FitsOneOf, writeOneOf, exact.1.content_make, Nat.add_zero]
          exact ⟨fits, trivial⟩
      | succ i =>
          rw [List.getElem?_cons_succ] at hi
          have hnone : y.content? (x.make a) = none := apart.1 x (List.mem_of_getElem? hi) a
          have hrest := ih exact.2 apart.2 hi (start + 1)
          rw [Nat.add_assoc, Nat.add_comm 1] at hrest
          simp only [FitsOneOf, writeOneOf, hnone]
          exact hrest

/-- Alternatives that exclude each other are told apart by their index. -/
lemma exact_oneOf {alternatives : List (Alternative β)} (exact : ∀ x ∈ alternatives, x.Exact)
    (apart : alternatives.Pairwise Alternative.Excludes)
    (few : alternatives.length ≤ 256 ^ 4) : (oneOf alternatives).Exact where
  lawful b rest hb := by
    obtain ⟨i, x, a, hi, ha, hfits, hwrite⟩ := exists_of_fitsOneOf hb 0
    have hx := exact x (List.mem_of_getElem? hi)
    have hlt : i < alternatives.length := (List.getElem?_eq_some_iff.mp hi).1
    rw [oneOf]
    dsimp only
    rw [hwrite, List.append_assoc, Nat.zero_add]
    refine bind_eq_ok.mpr ⟨_, readWord_wordBytes 4 i _ (hlt.trans_le few), ?_⟩
    simp only [hi]
    refine bind_eq_ok.mpr ⟨_, hx.codec.lawful a rest hfits, ?_⟩
    rw [hx.make_content ha]
    rfl
  canonical bytes b rest h := by
    obtain ⟨⟨i, body⟩, hindex, h⟩ := bind_eq_ok.mp h
    dsimp only at h
    split at h
    · next x hi =>
        obtain ⟨⟨a, rest'⟩, ha, heq⟩ := bind_eq_ok.mp h
        cases heq
        have hx := exact x (List.mem_of_getElem? hi)
        obtain ⟨hfits, rfl⟩ := hx.codec.canonical _ _ _ ha
        obtain ⟨-, rfl⟩ := eq_wordBytes_of_readWord hindex
        obtain ⟨hone, hwrite⟩ := writeOneOf_make exact apart hi hfits 0
        rw [Nat.zero_add] at hwrite
        refine ⟨hone, ?_⟩
        show _ = writeOneOf 0 alternatives (x.make a) ++ rest'
        rw [hwrite, List.append_assoc]
    · cases h

/-! ### Fronts of written forms -/

lemma Exact.read_eq_ok_iff (h : c.Exact) {bytes rest : List UInt8} {a : α} :
    c.read bytes = .ok (a, rest) ↔ c.Fits a ∧ bytes = c.write a ++ rest := by
  constructor
  · exact h.canonical bytes a rest
  · rintro ⟨fits, rfl⟩
    exact h.lawful a rest fits

/-- Bytes begin with the written form of one value at most. -/
lemma Exact.eq_of_prefix (h : c.Exact) {a b : α} (ha : c.Fits a) (hb : c.Fits b)
    {bytes : List UInt8} (hfront : c.write a <+: bytes) (hfront' : c.write b <+: bytes) :
    a = b := by
  obtain ⟨rest, hrest⟩ := hfront
  obtain ⟨rest', hrest'⟩ := hfront'
  have hread : c.read bytes = .ok (a, rest) := h.read_eq_ok_iff.mpr ⟨ha, hrest.symm⟩
  have hread' : c.read bytes = .ok (b, rest') := h.read_eq_ok_iff.mpr ⟨hb, hrest'.symm⟩
  rw [hread] at hread'
  exact (Prod.mk.inj (Except.ok.inj hread')).1

/-- A written form that is cut short is not read as anything. -/
lemma Exact.read_cut (h : c.Exact) {a : α} (fits : c.Fits a) {front : List UInt8}
    (cut : front <+: c.write a) (short : front ≠ c.write a) :
    ∃ fault, c.read front = .error fault := by
  cases hread : c.read front with
  | error fault => exact ⟨fault, rfl⟩
  | ok found =>
      obtain ⟨b, rest⟩ := found
      obtain ⟨hb, rfl⟩ := h.read_eq_ok_iff.mp hread
      -- The form of `b` begins the form of `a`, so they are one, and nothing was cut off.
      have hfront : c.write b <+: c.write a := (List.prefix_append _ rest).trans cut
      obtain rfl := h.eq_of_prefix hb fits hfront List.prefix_rfl
      exact absurd (cut.eq_of_length_le (List.prefix_append _ rest).length_le) short

end Codec

end MechBattle
