import Clearing.Proofs.Lemmas.WrittenSettings
import Clearing.User.Basic

/-!
# The written form of records

What is written of a record that was read is read as the record again, except that an amount of zero comes back
without its sign; after that nothing changes any more. Users and verifications are the exception: they are not read
from what is written of them, and one member is all that is missing.
-/

namespace Clearing

/-! ## Zeros with a sign -/

namespace Binary64

theorem mem_pointed {ds : List Char} {k : Int} {c : Char} (h : c ∈ pointed ds k) : c = '0' ∨ c = '.' ∨ c ∈ ds := by
  unfold pointed at h
  split at h
  · simp only [List.mem_cons, List.mem_append, List.mem_replicate] at h
    tauto
  · split at h
    · simp only [List.mem_append, List.mem_replicate] at h
      tauto
    · simp only [List.mem_append, List.mem_cons] at h
      rcases h with h | h | h
      · exact .inr (.inr (List.mem_of_mem_take h))
      · exact .inr (.inl h)
      · exact .inr (.inr (List.mem_of_mem_drop h))

theorem mem_plainChars {x : Binary64} {c : Char} (h : c ∈ x.plainChars) : c = '-' ∨ c = '.' ∨ c.isDigit = true := by
  have hbody : ∀ {d : Nat} {k : Int}, c ∈ (if d = 0 then ['0'] else pointed (Digits.decimal d) k) →
      c = '.' ∨ c.isDigit = true := by
    intro d k h
    split at h
    · cases List.mem_singleton.mp h
      exact .inr rfl
    · rcases mem_pointed h with rfl | rfl | h
      · exact .inr rfl
      · exact .inl rfl
      · exact .inr (Digits.isDigit_of_mem_decimal h)
  unfold plainChars at h
  dsimp only at h
  split at h
  · rcases List.mem_cons.mp h with rfl | h
    · exact .inl rfl
    · exact .inr (hbody h)
  · exact .inr (hbody h)

end Binary64

theorem Json.exponent_of_negative_zero {v : Json} {d : Decimal} (h : ofJson? v = some d) (hneg : d.negative = true)
    (hzero : d.isZero = true) : ∃ text, v = .string text ∧ ∃ c ∈ text.toList, Decimal.isExponentMark c = true := by
  have hsigned : d.reread ≠ d := fun heq => Decimal.reread_eq_self_iff.mp heq ⟨hneg, hzero⟩
  cases v with
  | string text =>
      by_contra hnone
      refine hsigned (Decimal.reread_of_ofChars? h fun c hc => ?_)
      exact Bool.eq_false_of_not_eq_true fun hmark => hnone ⟨text, rfl, c, hc, hmark⟩
  | int n => exact absurd (Decimal.reread_of_narrow h) hsigned
  | float x =>
      refine absurd (Decimal.reread_of_ofChars? h fun c hc => ?_) hsigned
      rcases Binary64.mem_plainChars hc with rfl | rfl | hdigit
      · rfl
      · rfl
      · cases hmark : Decimal.isExponentMark c with
        | false => rfl
        | true =>
            simp only [Decimal.isExponentMark, Bool.or_eq_true, beq_iff_eq] at hmark
            rcases hmark with rfl | rfl <;> cases hdigit
  | _ => cases h

/-! ## Records -/

/-- The written form of a type settles: a value that is read, written and read again is the same but for the signs of
its zeros, and the same altogether from then on. -/
structure Stable (α : Type) [Encode α] [Decode α] [HasAmounts α] : Prop where
  again : ∀ {v : Json} {a : α}, ofJson? v = some a → ofJson? (json a) = some (reread a)
  unchanged : ∀ {v : Json} {a : α}, ofJson? v = some a → (∀ d ∈ amounts a, ¬ (d.negative = true ∧ d.isZero = true)) →
    ofJson? (json a) = some a
  settled : ∀ {v : Json} {a b : α}, ofJson? v = some a → ofJson? (json a) = some b → ofJson? (json b) = some b

/-- Types whose values are read, written and read again without any change. -/
def Exact (α : Type) [Encode α] [Decode α] : Prop :=
  ∀ ⦃v : Json⦄ ⦃a : α⦄, ofJson? v = some a → ofJson? (json a) = some a

theorem Rereads.stable {α : Type} [Encode α] [Decode α] [HasAmounts α] [Rereads α] : Stable α where
  again h := Rereads.again h
  unchanged h hsigned := by
    rw [Rereads.again h, reread_eq_self hsigned]
  settled {_ a b} h hb := by
    have hagain : b = reread a := Option.some.inj (hb.symm.trans (Rereads.again h))
    calc
      ofJson? (json b) = some (reread b) := Rereads.again hb
      _ = some b := by rw [hagain, reread_reread]

/-! ## Records that withhold a member -/

/-- One member of a record is never written but has to be there, and it is all that is missing. -/
structure Withholds (α : Type) [Encode α] [Decode α] (name : String) (set : String → α → α) : Prop where
  unwritten : ∀ a : α, ∃ ms, json a = .object ms ∧ Json.member? ms name = none
  required : ∀ ms : List (String × Json), Json.member? ms name = none → (ofJson? (.object ms) : Option α) = none
  completed : ∀ {v : Json} {a : α} {ms : List (String × Json)} (text : String), ofJson? v = some a →
    json a = .object ms → ofJson? (.object ((name, .string text) :: ms)) = some (set text a)

theorem Withholds.unread {α : Type} [Encode α] [Decode α] {name : String} {set : String → α → α}
    (h : Withholds α name set) (a : α) : (ofJson? (json a) : Option α) = none := by
  obtain ⟨ms, hms, hnone⟩ := h.unwritten a
  rw [hms]
  exact h.required ms hnone

open Json

theorem Json.field?_of_absent {α : Type} [Decode α] {ms : List (String × Json)} {name : String}
    (h : member? ms name = none) : (field? ms name : Option α) = none := by
  rw [field?, fieldWith?, h, Option.bind_none]

theorem User.withholds : Withholds User "password_hash" fun text u => { u with passwordHash := text } where
  unwritten u := ⟨_, rfl, rfl⟩
  required ms hms := by
    refine Option.eq_none_iff_forall_ne_some.mpr fun u h => ?_
    simp only [ofJson?, Option.bind_eq_bind, Option.bind_eq_some_iff, Option.some.injEq] at h
    obtain ⟨ms', hms', id, -, username, -, email, -, passwordHash, hpasswordHash, -⟩ := h
    cases hms'
    rw [field?_of_absent hms] at hpasswordHash
    cases hpasswordHash
  completed text h hms := by
    simp only [ofJson?, Option.bind_eq_bind, Option.bind_eq_some_iff, Option.some.injEq] at h
    obtain ⟨ms', -, id, hid, username, husername, email, hemail, passwordHash, -, role, hrole, isVerified, hisVerified,
      createdAt, hcreatedAt, rfl⟩ := h
    cases hms
    exact members?_bind <| field?_bind hid rfl <| field?_bind husername rfl <| field?_bind hemail rfl <|
      Option.bind_eq_some_iff.mpr ⟨text, rfl, field?_bind hrole rfl <| field?_bind hisVerified rfl <|
        field?_bind hcreatedAt rfl rfl⟩

theorem Verification.withholds : Withholds Verification "secret_code" fun text v => { v with secretCode := text } where
  unwritten v := ⟨_, rfl, rfl⟩
  required ms hms := by
    refine Option.eq_none_iff_forall_ne_some.mpr fun v h => ?_
    simp only [ofJson?, Option.bind_eq_bind, Option.bind_eq_some_iff, Option.some.injEq] at h
    obtain ⟨ms', hms', id, -, username, -, email, -, secretCode, hsecretCode, -⟩ := h
    cases hms'
    rw [field?_of_absent hms] at hsecretCode
    cases hsecretCode
  completed text h hms := by
    simp only [ofJson?, Option.bind_eq_bind, Option.bind_eq_some_iff, Option.some.injEq] at h
    obtain ⟨ms', -, id, hid, username, husername, email, hemail, secretCode, -, isUsed, hisUsed, createdAt, hcreatedAt,
      expiredAt, hexpiredAt, rfl⟩ := h
    cases hms
    exact members?_bind <| fieldWith?_bind hid (Document.integer?_again _ _) rfl <| field?_bind husername rfl <|
      field?_bind hemail rfl <| Option.bind_eq_some_iff.mpr ⟨text, rfl, field?_bind hisUsed rfl <|
        field?_bind hcreatedAt rfl <| field?_bind hexpiredAt rfl rfl⟩

/-! ## The written form settles -/

/-- An order none of whose members is spelled as it is written. -/
def oddOrder : Json :=
  .object [("note", .null), ("updated_at", .string "2024-03-01 00:00:00.25z"),
    ("created_at", .string "2017-01-01T05:29:60.5+05:30"), ("status", .object [("partially_filled", .null)]),
    ("filled_amount", .string "+5e-1"), ("amount", .string "1_0.50"), ("price", .int 5), ("side", .string "sell"),
    ("market_id", .string "000000000000400080000000000000AB"),
    ("user_id", .string "URN:UUID:00000000-0000-4000-8000-0000000000CD"),
    ("id", .string "\x7b00000000-0000-4000-8000-0000000000ef\x7d")]

/-- The order that is read from these spellings; it was created in a leap second. -/
def plainOrder : Order where
  id := .ofNat 0x000000000000400080000000000000ef
  userId := .ofNat 0x000000000000400080000000000000cd
  marketId := .ofNat 0x000000000000400080000000000000ab
  side := .sell
  price := { negative := false, coeff := 5, scale := 0 }
  amount := { negative := false, coeff := 1050, scale := 2 }
  filledAmount := { negative := false, coeff := 5, scale := 1 }
  status := .partiallyFilled
  createdAt := { seconds := 1483228799, nanos := 1500000000 }
  updatedAt := { seconds := 1709251200, nanos := 250000000 }

/-- The request to leave an order open with a fill of this text. -/
def leavingOpen (filled : String) : Json :=
  .object [("order_id", .string "00000000-0000-4000-8000-000000000001"), ("status", .string "open"),
    ("filled_amount", .string filled)]

/-- The same request with a zero of 28 places and this sign. -/
def leavingEmpty (negative : Bool) : FillRequest where
  orderId := .ofNat 0x00000000000040008000000000000001
  status := .opened
  filledAmount := {
    negative := negative
    coeff := 0
    scale := 28
    coeff_lt := Decimal.zero.coeff_lt
    dvd_coeff := Nat.dvd_zero _ }

end Clearing
