import Clearing.Proofs.Lemmas.RowByRow

/-!
# Rows that differ in secrets

Rows may differ in the passwords of users, and in the names under which verifications know their codes. Queries over
such rows that present the codes by their names have replies that differ in the same way.
-/

namespace Clearing

variable {α β γ : Type} {f : String → String}

/-! ## Rows -/

/-- Two users who differ in the password at most. -/
def User.Veiled (u u' : User) : Prop := ∃ passwordHash, u' = { u with passwordHash := passwordHash }

/-- A verification whose code goes by another name. -/
def Verification.renamed (f : String → String) (v : Verification) : Verification :=
  { v with secretCode := f v.secretCode }

theorem User.Veiled.sameKey : Table.SameKey User.Veiled := by
  rintro u u' ⟨passwordHash, rfl⟩
  rfl

theorem Verification.sameKey_renamed : Table.SameKey fun v v' : Verification => v' = v.renamed f := by
  rintro v v' rfl
  rfl

/-- Rows that differ in the passwords of users and in the names of codes. -/
structure Tables.Veiled (f : String → String) (t t' : Tables) : Prop where
  users : t.users.RowByRow User.Veiled t'.users
  verifications : t.verifications.RowByRow (fun v v' => v' = v.renamed f) t'.verifications
  others : t' = { t with users := t'.users, verifications := t'.verifications }

/-! ## Replies -/

namespace Tables

/-- Two replies with the rows that they leave: values that are related, or the same error. -/
inductive SameReply (f : String → String) (R : α → β → Prop) :
    Except StoreError (α × Tables) → Except StoreError (β × Tables) → Prop where
  | ok {a : α} {b : β} {t t' : Tables} (values : R a b) (rows : t.Veiled f t') :
      SameReply f R (.ok (a, t)) (.ok (b, t'))
  | error (e : StoreError) : SameReply f R (.error e) (.error e)

theorem SameReply.found_bind {R : α → β → Prop} {S : γ → γ → Prop} {q q' : Query} {x x' : Option γ}
    {g : γ → Except StoreError (α × Tables)} {g' : γ → Except StoreError (β × Tables)} (hx : Option.Rel S x x')
    (hmissing : q'.missing = q.missing) (hg : ∀ a a', S a a' → SameReply f R (g a) (g' a')) :
    SameReply f R (found q x >>= g) (found q' x' >>= g') := by
  cases hx with
  | some h => exact hg _ _ h
  | none =>
      show SameReply f R (.error (.notFound q.missing)) (.error (.notFound q'.missing))
      rw [hmissing]
      exact .error _

namespace Veiled

variable {t t' : Tables}

theorem userNamed? (h : t.Veiled f t') (username : String) :
    Option.Rel User.Veiled (t.userNamed? username) (t'.userNamed? username) := by
  refine h.users.find? ?_
  rintro u u' ⟨passwordHash, rfl⟩
  rfl

theorem verification? (h : t.Veiled f t') (id : Int) :
    Option.Rel (fun v v' => v' = v.renamed f) (t.verification? id) (t'.verification? id) :=
  h.verifications.get? Verification.sameKey_renamed id

theorem duplicateOf? (h : t.Veiled f t') (registration : Registration) (passwordHash : String) :
    t'.duplicateOf? { registration with passwordHash := passwordHash } = t.duplicateOf? registration := by
  have hsome : ∀ {x x' : Option User}, Option.Rel User.Veiled x x' → x'.isSome = x.isSome := by
    rintro _ _ (_ | _) <;> rfl
  have hname := hsome (h.userNamed? registration.username)
  have hemail : (t'.users.find? (·.email = registration.email)).isSome
      = (t.users.find? (·.email = registration.email)).isSome := by
    refine hsome (h.users.find? ?_)
    rintro u u' ⟨passwordHash, rfl⟩
    rfl
  simp only [Tables.duplicateOf?, hemail]
  rw [show (t'.users.find? (·.username = registration.username)).isSome = _ from hname]
  rfl

theorem putUser (h : t.Veiled f t') {u u' : User} (hu : u.Veiled u') : (t.putUser u).Veiled f (t'.putUser u') where
  users := h.users.insert User.Veiled.sameKey hu
  verifications := h.verifications
  others := by
    rw [Tables.putUser, h.others]
    rfl

theorem putVerification (h : t.Veiled f t') (v : Verification) :
    (t.putVerification v).Veiled f (t'.putVerification (v.renamed f)) where
  users := h.users
  verifications := h.verifications.insert Verification.sameKey_renamed rfl
  others := by
    rw [Tables.putVerification, h.others]
    rfl

theorem putWallet (h : t.Veiled f t') (w : Wallet) : (t.putWallet w).Veiled f (t'.putWallet w) where
  users := h.users
  verifications := h.verifications
  others := by
    rw [Tables.putWallet, h.others]
    rfl

theorem putMarket (h : t.Veiled f t') (m : Market) : (t.putMarket m).Veiled f (t'.putMarket m) where
  users := h.users
  verifications := h.verifications
  others := by
    rw [Tables.putMarket, h.others]
    rfl

theorem putOrder (h : t.Veiled f t') (o : Order) : (t.putOrder o).Veiled f (t'.putOrder o) where
  users := h.users
  verifications := h.verifications
  others := by
    rw [Tables.putOrder, h.others]
    rfl

theorem addVerification (h : t.Veiled f t') (username email code : String) (now expiry : Instant) :
    let added := t.addVerification username email code now expiry
    let added' := t'.addVerification username email (f code) now expiry
    added'.1 = added.1.renamed f ∧ added.2.Veiled f added'.2 := by
  have hnumber : t'.nextVerificationId = t.nextVerificationId := by rw [h.others]
  simp only [Tables.addVerification, hnumber]
  refine ⟨rfl, h.users, h.verifications.insert Verification.sameKey_renamed rfl, ?_⟩
  rw [h.others]
  rfl

end Veiled

end Tables

def Query.concernsUsers : Query → Bool
  | .insertUser _ | .consumeVerification .. | .markUserVerified _ => true
  | _ => false

namespace Tables

variable {t t' : Tables} (h : t.Veiled f t') (fresh : Uuid) (now : Instant)
include h

theorem reply_veiled {q : Query} (hq : q.concernsUsers = false) :
    SameReply f (· = ·) (t.reply fresh now q) (t'.reply fresh now q) := by
  obtain ⟨husers, hverifications, hothers⟩ := h
  have hsame : ∀ {α : Type} (x : Option α), Option.Rel (· = ·) x x := fun x => by
    cases x with
    | none => exact .none
    | some a => exact .some rfl
  rw [hothers]
  cases q with
  | insertUser registration | consumeVerification id code | markUserVerified username => cases hq
  | getOrder id | lockOrder id | getMarket id | findWallet userId currency | lockWallet id | lockLedgerEntry id
  | updateOrder id status filled | updateWallet id balance lockedBalance | updateLedgerStatus id status
  | markPublished id | recordFailure id error giveUp =>
      refine .found_bind (hsame _) rfl ?_
      rintro a _ rfl
      exact .ok rfl ⟨husers, hverifications, rfl⟩
  | insertFee rates | insertTrade execution | insertLedgerEntry transfer amount | insertOutbox task
  | listUserWallets userId | listLargestWallets limit | claimOutbox limit =>
      exact .ok rfl ⟨husers, hverifications, rfl⟩

theorem reply_insertUser (registration : Registration) (passwordHash : String) :
    SameReply f User.Veiled (t.reply fresh now (.insertUser registration))
      (t'.reply fresh now (.insertUser { registration with passwordHash := passwordHash })) := by
  simp only [reply, h.duplicateOf? registration passwordHash]
  cases t.duplicateOf? registration with
  | some key => exact .error _
  | none => exact .ok ⟨passwordHash, rfl⟩ (h.putUser ⟨passwordHash, rfl⟩)

theorem reply_markUserVerified (username : String) :
    SameReply f User.Veiled (t.reply fresh now (.markUserVerified username))
      (t'.reply fresh now (.markUserVerified username)) := by
  refine .found_bind (h.userNamed? username) rfl ?_
  rintro u u' ⟨passwordHash, rfl⟩
  exact .ok ⟨passwordHash, rfl⟩ (h.putUser ⟨passwordHash, rfl⟩)

theorem reply_consumeVerification (hf : Function.Injective f) (id : Int) (code : String) :
    SameReply f (fun v v' => v' = v.renamed f) (t.reply fresh now (.consumeVerification id code))
      (t'.reply fresh now (.consumeVerification id (f code))) := by
  -- No code comes to match, or ceases to, by another name.
  have husable : ∀ v : Verification, (v.renamed f).isUsableWith (f code) now = v.isUsableWith code now := by
    intro v
    have hcode : (f v.secretCode == f code) = (v.secretCode == code) := by
      rw [Bool.eq_iff_iff, beq_iff_eq, beq_iff_eq, hf.eq_iff]
    simp only [Verification.isUsableWith, Verification.renamed, hcode]
  have hfound : Option.Rel (fun v v' => v' = v.renamed f) ((t.verification? id).filter (·.isUsableWith code now))
      ((t'.verification? id).filter (·.isUsableWith (f code) now)) := by
    have hrel := h.verification? id
    generalize t.verification? id = x at hrel
    generalize t'.verification? id = x' at hrel
    cases hrel with
    | none => exact .none
    | @some v v' hv =>
        rw [hv, Option.filter_some, Option.filter_some, husable]
        split
        · exact .some rfl
        · exact .none
  refine .found_bind hfound rfl ?_
  rintro v v' rfl
  exact .ok rfl (h.putVerification { v with isUsed := true })

end Tables

end Clearing
