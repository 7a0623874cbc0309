import Mathlib.Data.List.Basic
import VCalendar.Proofs.Text.Utf8

/-!
# Ill-formed bytes

Bytes that are no UTF-8 are replaced part by part: a part is as long as it can be the
beginning of a character, or a single byte if that is none. Main statement: the machine
that reads bytes does exactly this. It follows that an ASCII byte is read as its character
whatever stands around it, and that an ASCII character comes from its own byte only.
-/

namespace VCalendar.Text.Utf8

variable {p : Partial} {bytes more part rest tail : List UInt8} {lead a b : UInt8} {v : Nat}
  {c : Char} {cs : List Char}

/-! ## Ill-formed parts -/

/-- Some bytes are the encoding of a character, or can be completed to one. -/
def Begins (bytes : List UInt8) : Prop :=
  ∃ c, bytes <+: String.utf8EncodeChar c

/-- A part in front of some bytes is ill-formed, and the next byte does not belong to it. -/
structure IllFormedPart (part rest : List UInt8) : Prop where
  ne_nil : part ≠ []
  incomplete : ∀ c, part ≠ String.utf8EncodeChar c
  begins : Begins part ∨ part.length = 1
  maximal : ∀ b, rest.head? = some b → ¬ Begins (part ++ [b])

/-- How bytes are to be read: encodings as their characters, each ill-formed part as one
replacement character. -/
inductive ReadAs : List UInt8 → List Char → Prop where
  | nil : ReadAs [] []
  | char (c : Char) {rest : List UInt8} {cs : List Char} :
      ReadAs rest cs → ReadAs (String.utf8EncodeChar c ++ rest) (c :: cs)
  | illFormed {part rest : List UInt8} {cs : List Char} :
      IllFormedPart part rest → ReadAs rest cs → ReadAs (part ++ rest) ('\uFFFD' :: cs)

/-! ## What may follow a lead byte -/

/-- The bytes that may follow an unfinished sequence, up to its end. -/
def Partial.Admits : Partial → List UInt8 → Prop
  | _, [] => True
  | p, b :: more =>
      (p.low ≤ b.toNat ∧ b.toNat ≤ p.high) ∧
        match p.further with
        | 0 => more = []
        | further + 1 => Partial.Admits ⟨64 * p.bits + b.toNat % 64, 0x80, 0xbf, further⟩ more

theorem Partial.Admits.of_prefix (h : p.Admits more) (hfront : part <+: more) :
    p.Admits part := by
  induction part generalizing p more with
  | nil => trivial
  | cons b part ih =>
      obtain ⟨rest, rfl⟩ := hfront
      obtain ⟨hbounds, hmore⟩ := h
      refine ⟨hbounds, ?_⟩
      split at hmore
      · exact (List.append_eq_nil_iff.mp hmore).1
      · exact ih hmore (List.prefix_append part rest)

/-- The bounds of an unfinished sequence are those of continuation bytes. -/
structure Partial.Bounded (p : Partial) : Prop where
  low : 0x80 ≤ p.low
  low_le_high : p.low ≤ p.high
  high : p.high ≤ 0xbf

theorem Partial.Bounded.inner (bits further : Nat) :
    Partial.Bounded ⟨bits, 0x80, 0xbf, further⟩ :=
  ⟨Nat.le_refl _, by simp only; omega, Nat.le_refl _⟩

theorem Partial.Bounded.le_of_mem (hbounded : p.Bounded) (h : p.Admits more) (hb : b ∈ more) :
    0x80 ≤ b.toNat := by
  induction more generalizing p with
  | nil => cases hb
  | cons d more ih =>
      obtain ⟨hbounds, hmore⟩ := h
      rcases List.mem_cons.mp hb with rfl | hb
      · exact Nat.le_trans hbounded.low hbounds.1
      · split at hmore
        · rw [hmore] at hb
          cases hb
        · exact ih (.inner _ _) hmore hb

theorem Partial.Bounded.exists_byte (hbounded : p.Bounded) :
    ∃ b : UInt8, p.low ≤ b.toNat ∧ b.toNat ≤ p.high := by
  obtain ⟨hlow, hle, hhigh⟩ := hbounded
  have hbyte : (UInt8.ofNat p.low).toNat = p.low :=
    UInt8.toNat_ofNat_of_lt' (by show _ < 256; omega)
  exact ⟨UInt8.ofNat p.low, by omega, by omega⟩

/-- What may follow can be completed. -/
theorem Partial.Bounded.exists_full (hbounded : p.Bounded) (h : p.Admits more) :
    ∃ full, more <+: full ∧ p.Admits full ∧ full.length = p.further + 1 := by
  obtain ⟨bits, low, high, further⟩ := p
  induction further generalizing bits low high more with
  | zero =>
      cases more with
      | nil =>
          obtain ⟨b, hbounds⟩ := hbounded.exists_byte
          exact ⟨[b], List.nil_prefix, ⟨hbounds, rfl⟩, rfl⟩
      | cons b more =>
          obtain ⟨hbounds, rfl⟩ := h
          exact ⟨[b], List.prefix_rfl, ⟨hbounds, rfl⟩, rfl⟩
  | succ further ih =>
      cases more with
      | nil =>
          obtain ⟨b, hbounds⟩ := hbounded.exists_byte
          have hnil : Partial.Admits ⟨64 * bits + b.toNat % 64, 0x80, 0xbf, further⟩ [] := trivial
          obtain ⟨full, -, hfull, hlength⟩ := ih _ _ _ (.inner _ _) hnil
          exact ⟨b :: full, List.nil_prefix, ⟨hbounds, hfull⟩, congrArg (· + 1) hlength⟩
      | cons b more =>
          obtain ⟨hbounds, hmore⟩ := h
          obtain ⟨full, hfront, hfull, hlength⟩ := ih _ _ _ (.inner _ _) hmore
          exact ⟨b :: full, List.cons_prefix_cons.mpr ⟨rfl, hfront⟩, ⟨hbounds, hfull⟩,
            congrArg (· + 1) hlength⟩

/-! ## Encodings -/

/-- The lead bytes of sequences, with what the machine knows after them. -/
inductive Leads : Nat → Partial → Prop where
  | two {n : Nat} : 0xc2 ≤ n → n < 0xe0 → Leads n ⟨n - 0xc0, 0x80, 0xbf, 0⟩
  | three {n : Nat} : 0xe0 ≤ n → n < 0xf0 →
      Leads n ⟨n - 0xe0, if n = 0xe0 then 0xa0 else 0x80, if n = 0xed then 0x9f else 0xbf, 1⟩
  | four {n : Nat} : 0xf0 ≤ n → n < 0xf5 →
      Leads n ⟨n - 0xf0, if n = 0xf0 then 0x90 else 0x80, if n = 0xf4 then 0x8f else 0xbf, 2⟩

/-- Between characters a byte is an ASCII character, the lead of a sequence, or ill-formed. -/
theorem start_cases (n : Nat) :
    (n < 0x80 ∧ start n = ([some (Char.ofNat n)], none)) ∨
    (∃ p, Leads n p ∧ start n = ([], some p)) ∨
    (0x80 ≤ n ∧ (∀ p, ¬ Leads n p) ∧ start n = ([none], none)) := by
  by_cases hascii : n < 0x80
  · exact .inl ⟨hascii, start_one hascii⟩
  right
  have hnone : n < 0xc2 ∨ 0xf5 ≤ n → ∀ p, ¬ Leads n p := by
    rintro hn p (hlead | hlead | hlead) <;> omega
  unfold start
  rw [if_neg hascii]
  split
  · exact .inr ⟨by omega, hnone (by omega), rfl⟩
  split
  · exact .inl ⟨_, .two (by omega) (by omega), rfl⟩
  split
  · rename_i heq
    subst heq
    exact .inl ⟨_, .three (by omega) (by omega), rfl⟩
  split
  · rename_i heq
    subst heq
    exact .inl ⟨_, .three (by omega) (by omega), rfl⟩
  split
  · refine .inl ⟨_, .three (by omega) (by omega), ?_⟩
    rw [if_neg (by omega), if_neg (by omega)]
  split
  · rename_i heq
    subst heq
    exact .inl ⟨_, .four (by omega) (by omega), rfl⟩
  split
  · refine .inl ⟨_, .four (by omega) (by omega), ?_⟩
    rw [if_neg (by omega), if_neg (by omega)]
  split
  · rename_i heq
    subst heq
    exact .inl ⟨_, .four (by omega) (by omega), rfl⟩
  · exact .inr ⟨by omega, hnone (by omega), rfl⟩

theorem Leads.bounded {n : Nat} (h : Leads n p) : p.Bounded := by
  cases h with
  | two => exact .inner _ _
  | three => constructor <;> simp only <;> split <;> (try split) <;> omega
  | four => constructor <;> simp only <;> split <;> (try split) <;> omega

theorem toNat_val_ofNat (h : v < 0xd800 ∨ 0xdfff < v ∧ v < 0x110000) :
    (Char.ofNat v).val.toNat = v := by
  have hvalid : v.isValidChar := h
  rw [Char.ofNat, dif_pos hvalid]
  rfl

/-- The encoding of a character is one ASCII byte, or a lead byte with what may follow it. -/
theorem encodeChar_cases (c : Char) :
    (c.toNat < 0x80 ∧ String.utf8EncodeChar c = [UInt8.ofNat c.toNat]) ∨
    ∃ (lead : UInt8) (p : Partial) (tail : List UInt8), Leads lead.toNat p ∧ p.Admits tail ∧
      tail.length = p.further + 1 ∧ String.utf8EncodeChar c = lead :: tail := by
  obtain ⟨v, hv⟩ : ∃ v, c.val.toNat = v := ⟨_, rfl⟩
  have hvalid : v < 0xd800 ∨ 0xdfff < v ∧ v < 0x110000 := hv ▸ c.valid
  have hbyte : ∀ n < 256, (UInt8.ofNat n).toNat = n := fun n hn => UInt8.toNat_ofNat_of_lt' hn
  simp only [String.utf8EncodeChar, Char.toNat, hv]
  split
  · exact .inl ⟨by omega, rfl⟩
  right
  split
  · have hlead := Leads.two (n := v / 64 % 32 + 192) (by omega) (by omega)
    rw [← hbyte (v / 64 % 32 + 192) (by omega)] at hlead
    refine ⟨_, _, _, hlead, ?_, rfl, rfl⟩
    simp only [Partial.Admits, hbyte (v % 64 + 128) (by omega), and_true]
    omega
  split
  · have hlead := Leads.three (n := v / 4096 % 16 + 224) (by omega) (by omega)
    rw [← hbyte (v / 4096 % 16 + 224) (by omega)] at hlead
    refine ⟨_, _, _, hlead, ?_, rfl, rfl⟩
    simp only [Partial.Admits, hbyte (v % 64 + 128) (by omega),
      hbyte (v / 64 % 64 + 128) (by omega), hbyte (v / 4096 % 16 + 224) (by omega), and_true]
    split <;> split <;> omega
  · have hlead := Leads.four (n := v / 262144 % 8 + 240) (by omega) (by omega)
    rw [← hbyte (v / 262144 % 8 + 240) (by omega)] at hlead
    refine ⟨_, _, _, hlead, ?_, rfl, rfl⟩
    simp only [Partial.Admits, hbyte (v % 64 + 128) (by omega),
      hbyte (v / 64 % 64 + 128) (by omega), hbyte (v / 4096 % 64 + 128) (by omega),
      hbyte (v / 262144 % 8 + 240) (by omega), and_true]
    split <;> split <;> omega

theorem exists_encodeChar (hlead : Leads lead.toNat p) (h : p.Admits tail)
    (hlength : tail.length = p.further + 1) : ∃ c, String.utf8EncodeChar c = lead :: tail := by
  have hbyte : ∀ {n : Nat} {b : UInt8}, n = b.toNat → UInt8.ofNat n = b := by
    rintro n b rfl
    exact UInt8.ofNat_toNat
  cases hlead with
  | two hlow hhigh =>
      obtain ⟨b, rfl⟩ := List.length_eq_one_iff.mp hlength
      simp only [Partial.Admits] at h
      refine ⟨Char.ofNat (64 * (lead.toNat - 0xc0) + b.toNat % 64), ?_⟩
      simp only [String.utf8EncodeChar]
      rw [toNat_val_ofNat (by omega), if_neg (by omega), if_pos (by omega), hbyte (b := lead) (by omega),
        hbyte (b := b) (by omega)]
  | three hlow hhigh =>
      obtain ⟨b, d, rfl⟩ := List.length_eq_two.mp hlength
      simp only [Partial.Admits] at h
      obtain ⟨hb, hd, -⟩ := h
      refine ⟨Char.ofNat (64 * (64 * (lead.toNat - 0xe0) + b.toNat % 64) + d.toNat % 64), ?_⟩
      have hsecond : 0x80 ≤ b.toNat ∧ b.toNat ≤ 0xbf ∧ (lead.toNat = 0xe0 → 0xa0 ≤ b.toNat) ∧
          (lead.toNat = 0xed → b.toNat ≤ 0x9f) := by
        split at hb <;> split at hb <;> omega
      simp only [String.utf8EncodeChar]
      rw [toNat_val_ofNat (by omega), if_neg (by omega), if_neg (by omega), if_pos (by omega),
        hbyte (b := lead) (by omega), hbyte (b := b) (by omega), hbyte (b := d) (by omega)]
  | four hlow hhigh =>
      obtain ⟨b, d, e, rfl⟩ := List.length_eq_three.mp hlength
      simp only [Partial.Admits] at h
      obtain ⟨hb, hd, he, -⟩ := h
      refine ⟨Char.ofNat (64 * (64 * (64 * (lead.toNat - 0xf0) + b.toNat % 64) + d.toNat % 64) +
        e.toNat % 64), ?_⟩
      have hsecond : 0x80 ≤ b.toNat ∧ b.toNat ≤ 0xbf ∧ (lead.toNat = 0xf0 → 0x90 ≤ b.toNat) ∧
          (lead.toNat = 0xf4 → b.toNat ≤ 0x8f) := by
        split at hb <;> split at hb <;> omega
      simp only [String.utf8EncodeChar]
      rw [toNat_val_ofNat (by omega), if_neg (by omega), if_neg (by omega), if_neg (by omega),
        hbyte (b := lead) (by omega), hbyte (b := b) (by omega), hbyte (b := d) (by omega),
        hbyte (b := e) (by omega)]

theorem encodeChar_ascii (hc : c.toNat < 0x80) :
    String.utf8EncodeChar c = [UInt8.ofNat c.toNat] := by
  have hle : c.val.toNat ≤ 127 := Nat.le_of_lt_succ hc
  simp only [String.utf8EncodeChar, if_pos hle, Char.toNat]

theorem encodeChar_ofNat_ascii (ha : a.toNat < 0x80) :
    String.utf8EncodeChar (Char.ofNat a.toNat) = [a] := by
  have hvalue : (Char.ofNat a.toNat).toNat = a.toNat := toNat_val_ofNat (.inl (by omega))
  rw [encodeChar_ascii (by rwa [hvalue]), hvalue, UInt8.ofNat_toNat]

theorem Leads.le {n : Nat} (h : Leads n p) : 0xc2 ≤ n := by
  cases h <;> omega

theorem Leads.unique {n : Nat} {q : Partial} (h : Leads n p) (h' : Leads n q) : p = q := by
  cases h <;> cases h' <;> first | omega | rfl

theorem Leads.ne_ascii (hlead : Leads lead.toNat p) (hc : c.toNat < 0x80) :
    lead ≠ UInt8.ofNat c.toNat := by
  intro heq
  have hbyte : lead.toNat = c.toNat := by
    rw [heq, UInt8.toNat_ofNat_of_lt' (by show _ < 256; omega)]
  have hlarge := hlead.le
  omega

/-- A byte outside ASCII is no encoding by itself. -/
theorem singleton_ne_encodeChar (hlarge : 0x80 ≤ lead.toNat) (c : Char) :
    [lead] ≠ String.utf8EncodeChar c := by
  intro heq
  rcases encodeChar_cases c with ⟨hascii, hbytes⟩ | ⟨lead', q, tail, -, -, hlength, hbytes⟩
  · rw [hbytes, List.cons.injEq] at heq
    rw [heq.1, UInt8.toNat_ofNat_of_lt' (by show _ < 256; omega)] at hlarge
    omega
  · rw [hbytes, List.cons.injEq] at heq
    rw [← heq.2] at hlength
    exact Nat.succ_ne_zero _ hlength.symm

/-- The beginnings of encodings are the lead bytes, each with what may follow it. -/
theorem begins_cons_iff (hlead : Leads lead.toNat p) : Begins (lead :: more) ↔ p.Admits more := by
  constructor
  · rintro ⟨c, hfront⟩
    rcases encodeChar_cases c with ⟨hascii, hbytes⟩ | ⟨lead', q, tail, hlead', htail, -, hbytes⟩
    · rw [hbytes, List.cons_prefix_cons] at hfront
      exact absurd hfront.1 (hlead.ne_ascii hascii)
    · rw [hbytes, List.cons_prefix_cons] at hfront
      obtain ⟨rfl, hfront⟩ := hfront
      obtain rfl := hlead.unique hlead'
      exact htail.of_prefix hfront
  · intro h
    obtain ⟨full, hfront, hfull, hlength⟩ := hlead.bounded.exists_full h
    obtain ⟨c, hc⟩ := exists_encodeChar hlead hfull hlength
    exact ⟨c, hc ▸ List.cons_prefix_cons.mpr ⟨rfl, hfront⟩⟩

/-- Any other byte is an encoding by itself, or none begins with it. -/
theorem eq_encodeChar_of_begins (hlead : ∀ p, ¬ Leads lead.toNat p) (h : Begins (lead :: more)) :
    ∃ c, lead :: more = String.utf8EncodeChar c := by
  obtain ⟨c, hfront⟩ := h
  rcases encodeChar_cases c with ⟨-, hbytes⟩ | ⟨lead', q, tail, hlead', -, -, hbytes⟩
  · refine ⟨c, ?_⟩
    rw [hbytes, List.cons_prefix_cons] at hfront
    obtain ⟨rfl, hnil⟩ := hfront
    rw [hbytes, List.prefix_nil.mp hnil]
  · rw [hbytes, List.cons_prefix_cons] at hfront
    obtain ⟨rfl, -⟩ := hfront
    exact absurd hlead' (hlead q)

/-- An ASCII byte belongs to no encoding but its own. -/
theorem not_begins_concat_ascii (hne : part ≠ []) (ha : a.toNat < 0x80) :
    ¬ Begins (part ++ [a]) := by
  obtain ⟨lead, more, rfl⟩ := List.exists_cons_of_ne_nil hne
  rintro ⟨c, hfront⟩
  rcases encodeChar_cases c with ⟨-, hbytes⟩ | ⟨lead', q, tail, hlead', htail, -, hbytes⟩
  · rw [hbytes, List.cons_append, List.cons_prefix_cons, List.prefix_nil] at hfront
    simp at hfront
  · rw [hbytes, List.cons_append, List.cons_prefix_cons] at hfront
    have hmem : a ∈ tail := hfront.2.subset (by simp)
    have hlarge := hlead'.bounded.le_of_mem htail hmem
    omega

/-! ## The machine on ill-formed parts -/

theorem Partial.Admits.length_le (h : p.Admits more) : more.length ≤ p.further + 1 := by
  induction more generalizing p with
  | nil => exact Nat.zero_le _
  | cons b more ih =>
      obtain ⟨-, hmore⟩ := h
      split at hmore
      · rw [hmore]
        exact Nat.le_add_left 1 _
      · rename_i further hfurther
        rw [hfurther]
        exact Nat.succ_le_succ (ih hmore)

/-- A sequence that breaks off counts once, and the next byte is read from between characters. -/
theorem scan_unfinished (h : p.Admits part) (hlength : part.length ≤ p.further)
    (hmaximal : ∀ b, rest.head? = some b → ¬ p.Admits (part ++ [b])) :
    scan (some p) (part ++ rest) = none :: scan none rest := by
  induction part generalizing p with
  | nil =>
      cases rest with
      | nil => rfl
      | cons b rest =>
          have hout : ¬ (p.low ≤ b.toNat ∧ b.toNat ≤ p.high) := by
            intro hbounds
            refine hmaximal b rfl ⟨hbounds, ?_⟩
            split
            · rfl
            · trivial
          simp only [List.nil_append, scan, Option.elim_some, Partial.step, if_neg hout,
            Option.elim_none, List.cons_append]
  | cons b part ih =>
      obtain ⟨bits, low, high, further⟩ := p
      obtain ⟨hbounds, hmore⟩ := h
      cases further with
      | zero => simp at hlength
      | succ further =>
          rw [List.cons_append, scan_inner hbounds.1 hbounds.2]
          refine ih hmore (Nat.le_of_succ_le_succ hlength) ?_
          intro d hd hadmits
          exact hmaximal d hd ⟨hbounds, hadmits⟩

/-- A single byte that is no lead of a sequence. -/
theorem IllFormedPart.eq_singleton (h : IllFormedPart (lead :: more) rest)
    (hlead : ∀ p, ¬ Leads lead.toNat p) : more = [] := by
  rcases h.begins with hbegins | hlength
  · obtain ⟨c, hc⟩ := eq_encodeChar_of_begins hlead hbegins
    exact absurd hc (h.incomplete c)
  · exact List.length_eq_zero_iff.mp (Nat.succ.inj hlength)

/-- A sequence that is not complete. -/
theorem IllFormedPart.admits (h : IllFormedPart (lead :: more) rest)
    (hlead : Leads lead.toNat p) : p.Admits more ∧ more.length ≤ p.further := by
  have hadmits : p.Admits more := by
    rcases h.begins with hbegins | hlength
    · exact (begins_cons_iff hlead).mp hbegins
    · rw [List.length_eq_zero_iff.mp (Nat.succ.inj hlength)]
      trivial
  refine ⟨hadmits, ?_⟩
  by_contra hlong
  obtain ⟨c, hc⟩ := exists_encodeChar hlead hadmits
    (Nat.le_antisymm hadmits.length_le (by omega))
  exact h.incomplete c hc.symm

theorem scan_illFormedPart (h : IllFormedPart part rest) :
    scan none (part ++ rest) = none :: scan none rest := by
  obtain ⟨lead, more, rfl⟩ := List.exists_cons_of_ne_nil h.ne_nil
  rcases start_cases lead.toNat with ⟨hascii, -⟩ | ⟨p, hlead, hstart⟩ | ⟨-, hlead, hstart⟩
  · -- an ASCII byte is well-formed
    obtain rfl : more = [] := by
      refine h.eq_singleton ?_
      intro p hlead
      have hlarge := hlead.le
      omega
    exact absurd (encodeChar_ofNat_ascii hascii).symm (h.incomplete _)
  · obtain ⟨hadmits, hlength⟩ := h.admits hlead
    rw [List.cons_append, scan_lead hstart]
    refine scan_unfinished hadmits hlength ?_
    intro b hb hnext
    exact h.maximal b hb ((begins_cons_iff hlead).mpr hnext)
  · obtain rfl := h.eq_singleton hlead
    simp only [List.singleton_append, scan, Option.elim_none, hstart]

/-- The machine reads as is prescribed. -/
theorem ReadAs.decode_eq (h : ReadAs bytes cs) : decode bytes = cs := by
  induction h with
  | nil => rfl
  | char c _ ih => rw [decode, scan_encodeChar, List.map_cons, ← decode, ih, Option.getD_some]
  | illFormed hpart _ ih =>
      rw [decode, scan_illFormedPart hpart, List.map_cons, ← decode, ih, Option.getD_none]

/-! ## Every byte sequence can be read -/

/-- Behind a lead byte a sequence is completed, or it breaks off. -/
theorem Partial.exists_split (p : Partial) (bytes : List UInt8) :
    (∃ full rest, bytes = full ++ rest ∧ p.Admits full ∧ full.length = p.further + 1) ∨
    ∃ part rest, bytes = part ++ rest ∧ p.Admits part ∧ part.length ≤ p.further ∧
      ∀ b, rest.head? = some b → ¬ p.Admits (part ++ [b]) := by
  induction bytes generalizing p with
  | nil => exact .inr ⟨[], [], rfl, trivial, Nat.zero_le _, by simp⟩
  | cons b bytes ih =>
      by_cases hbounds : p.low ≤ b.toNat ∧ b.toNat ≤ p.high
      · obtain ⟨bits, low, high, further⟩ := p
        cases further with
        | zero => exact .inl ⟨[b], bytes, rfl, ⟨hbounds, rfl⟩, rfl⟩
        | succ further =>
            rcases ih ⟨64 * bits + b.toNat % 64, 0x80, 0xbf, further⟩ with
              ⟨full, rest, rfl, hfull, hlength⟩ | ⟨part, rest, rfl, hpart, hlength, hmaximal⟩
            · exact .inl ⟨b :: full, rest, rfl, ⟨hbounds, hfull⟩, congrArg (· + 1) hlength⟩
            · refine .inr ⟨b :: part, rest, rfl, ⟨hbounds, hpart⟩, Nat.succ_le_succ hlength, ?_⟩
              intro d hd hnext
              exact hmaximal d hd hnext.2
      · refine .inr ⟨[], b :: bytes, rfl, trivial, Nat.zero_le _, ?_⟩
        intro d hd hnext
        cases hd
        exact hbounds hnext.1

/-- In front of some bytes stands a character or an ill-formed part. -/
theorem exists_front (lead : UInt8) (more : List UInt8) :
    (∃ c rest, lead :: more = String.utf8EncodeChar c ++ rest) ∨
    ∃ part rest, lead :: more = part ++ rest ∧ IllFormedPart part rest := by
  rcases start_cases lead.toNat with ⟨hascii, -⟩ | ⟨p, hlead, -⟩ | ⟨hlarge, hlead, -⟩
  · refine .inl ⟨Char.ofNat lead.toNat, more, ?_⟩
    rw [encodeChar_ofNat_ascii hascii, List.singleton_append]
  · rcases p.exists_split more with
      ⟨full, rest, rfl, hfull, hlength⟩ | ⟨part, rest, rfl, hpart, hlength, hmaximal⟩
    · obtain ⟨c, hc⟩ := exists_encodeChar hlead hfull hlength
      exact .inl ⟨c, rest, by rw [hc, List.cons_append]⟩
    · refine .inr ⟨lead :: part, rest, rfl, by simp, ?_, ?_, ?_⟩
      · intro c hc
        rcases encodeChar_cases c with ⟨hascii, hbytes⟩ | ⟨lead', q, tail, hlead', -, hfull, hbytes⟩
        · rw [hbytes, List.cons.injEq] at hc
          exact hlead.ne_ascii hascii hc.1
        · rw [hbytes, List.cons.injEq] at hc
          obtain ⟨rfl, rfl⟩ := hc
          obtain rfl := hlead.unique hlead'
          omega
      · exact .inl ((begins_cons_iff hlead).mpr hpart)
      · intro b hb hnext
        exact hmaximal b hb ((begins_cons_iff hlead).mp hnext)
  · -- a byte that neither is a character nor begins one stands for itself
    refine .inr ⟨[lead], more, rfl, by simp, singleton_ne_encodeChar hlarge, .inr rfl, ?_⟩
    intro b _ hnext
    obtain ⟨c, hc⟩ := eq_encodeChar_of_begins hlead hnext
    rcases encodeChar_cases c with ⟨-, hbytes⟩ | ⟨lead', q, tail, hlead', -, -, hbytes⟩
    · rw [hbytes] at hc
      cases hc
    · rw [hbytes, List.cons.injEq] at hc
      exact hlead q (hc.1 ▸ hlead')

theorem exists_readAs (bytes : List UInt8) : ∃ cs, ReadAs bytes cs := by
  induction hlength : bytes.length using Nat.strongRecOn generalizing bytes with
  | ind length ih =>
      cases bytes with
      | nil => exact ⟨[], .nil⟩
      | cons lead more =>
          rcases exists_front lead more with ⟨c, rest, heq⟩ | ⟨part, rest, heq, hpart⟩
          · have hshorter : rest.length < length := by
              rw [← hlength, heq, List.length_append]
              exact Nat.lt_add_of_pos_left (String.length_utf8EncodeChar c ▸ c.utf8Size_pos)
            obtain ⟨cs, hcs⟩ := ih _ hshorter rest rfl
            exact ⟨c :: cs, heq ▸ .char c hcs⟩
          · have hshorter : rest.length < length := by
              rw [← hlength, heq, List.length_append]
              exact Nat.lt_add_of_pos_left (List.length_pos_of_ne_nil hpart.ne_nil)
            obtain ⟨cs, hcs⟩ := ih _ hshorter rest rfl
            exact ⟨'\uFFFD' :: cs, heq ▸ .illFormed hpart hcs⟩

/-- **Ill-formed bytes are replaced part by part.** Every byte sequence is read in exactly
one way, a character for each encoding in it and one replacement character for each maximal
ill-formed part, and this is what the machine makes of it. -/
theorem readAs_iff : ReadAs bytes cs ↔ decode bytes = cs := by
  constructor
  · exact ReadAs.decode_eq
  · rintro rfl
    obtain ⟨cs, hcs⟩ := exists_readAs bytes
    rw [hcs.decode_eq]
    exact hcs

/-! ## ASCII bytes -/

/-- What is in front of an ASCII byte is read on its own. -/
theorem ReadAs.append_ascii (ha : a.toNat < 0x80) {ds : List Char} (hrest : ReadAs rest ds)
    (h : ReadAs bytes cs) : ReadAs (bytes ++ a :: rest) (cs ++ Char.ofNat a.toNat :: ds) := by
  induction h with
  | nil =>
      rw [List.nil_append, List.nil_append, ← List.singleton_append, ← encodeChar_ofNat_ascii ha]
      exact .char _ hrest
  | char c _ ih =>
      rw [List.append_assoc, List.cons_append]
      exact .char c ih
  | @illFormed part behind _ hpart _ ih =>
      rw [List.append_assoc, List.cons_append]
      refine .illFormed ⟨hpart.ne_nil, hpart.incomplete, hpart.begins, ?_⟩ ih
      intro b hb
      cases behind with
      | nil =>
          obtain rfl : a = b := Option.some.inj hb
          exact not_begins_concat_ascii hpart.ne_nil ha
      | cons d behind => exact hpart.maximal b hb

theorem decode_append_ascii (ha : a.toNat < 0x80) (bytes rest : List UInt8) :
    decode (bytes ++ a :: rest) = decode bytes ++ Char.ofNat a.toNat :: decode rest :=
  readAs_iff.mp (.append_ascii ha (readAs_iff.mpr rfl) (readAs_iff.mpr rfl))

/-- An ASCII character is read from its own byte only. -/
theorem ReadAs.byte_of_mem (hc : c.toNat < 0x80) (h : ReadAs bytes cs) (hmem : c ∈ cs) :
    UInt8.ofNat c.toNat ∈ bytes := by
  induction h with
  | nil => cases hmem
  | char d _ ih =>
      rcases List.mem_cons.mp hmem with rfl | hmem
      · refine List.mem_append_left _ ?_
        rw [encodeChar_ascii hc]
        exact List.mem_singleton_self _
      · exact List.mem_append_right _ (ih hmem)
  | illFormed _ _ ih =>
      rcases List.mem_cons.mp hmem with rfl | hmem
      · exact absurd hc (by decide)
      · exact List.mem_append_right _ (ih hmem)

theorem ReadAs.head_of_ascii (hc : c.toNat < 0x80) (h : ReadAs bytes cs)
    (hhead : cs.head? = some c) : bytes.head? = some (UInt8.ofNat c.toNat) := by
  cases h with
  | nil => cases hhead
  | char d _ =>
      obtain rfl : d = c := Option.some.inj hhead
      rw [encodeChar_ascii hc]
      rfl
  | illFormed _ _ =>
      obtain rfl : '\uFFFD' = c := Option.some.inj hhead
      exact absurd hc (by decide)

end VCalendar.Text.Utf8
