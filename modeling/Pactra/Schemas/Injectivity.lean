import Pactra.Foundation.Calendar
import Pactra.Foundation.JsonText
import Pactra.Schemas.Transaction

/-!
# Canonical messages are unambiguous

A canonical message determines its domain and its fields: the encoded fields are printable ASCII, so
the last unit separator ends the domain; the encoded fields determine the sorted entries, each entry
its key, type tag and value, and a timestamp the instant.

## Main results

- `Datetime.encodeTimestamp_injective`, `Datetime.isoformat_injective` — instants
- `canonical_message_injective` — messages
- `BoundTransaction.eq_of_digest`, `offerVersionFields_of_fingerprint` — transactions and offers
-/

namespace Pactra

-- ════════════════════════════════════════════════════════════════════════
-- Instants
-- ════════════════════════════════════════════════════════════════════════

namespace Datetime

/-- A number of a timestamp ends where its digits end. -/
lemma zeroPad_append_inj {width : Nat} {m n : Int} {r r' : List Char} (hm : 0 ≤ m) (hn : 0 ≤ n)
    (hr : Text.Ends Char.isDigit r) (hr' : Text.Ends Char.isDigit r')
    (h : (Numeric.zeroPad width m).toList ++ r = (Numeric.zeroPad width n).toList ++ r') :
    m = n ∧ r = r' := by
  obtain ⟨hsame, hrest⟩ := Text.run_append_inj (Numeric.isDigit_zeroPad width m)
    (Numeric.isDigit_zeroPad width n) hr hr' h
  exact ⟨Numeric.zeroPad_injective hm hn hsame, hrest⟩

/-- The parts of date and time. -/
lemma dateTimeText_toList (t : Datetime) (r : List Char) :
    t.dateTimeText.toList ++ r =
      (Numeric.zeroPad 4 (Numeric.civilFromDays (t / 86400000000)).year).toList ++ '-' ::
      ((Numeric.zeroPad 2 (Numeric.civilFromDays (t / 86400000000)).month).toList ++ '-' ::
      ((Numeric.zeroPad 2 (Numeric.civilFromDays (t / 86400000000)).day).toList ++ 'T' ::
      ((Numeric.zeroPad 2 (t % 86400000000 / 1000000 / 3600)).toList ++ ':' ::
      ((Numeric.zeroPad 2 (t % 86400000000 / 1000000 % 3600 / 60)).toList ++ ':' ::
      ((Numeric.zeroPad 2 (t % 86400000000 / 1000000 % 60)).toList ++ r))))) := by
  simp [dateTimeText]

lemma civilDate_ext {a b : Numeric.CivilDate} (hy : a.year = b.year) (hm : a.month = b.month)
    (hd : a.day = b.day) : a = b := by
  cases a
  cases b
  cases hy
  cases hm
  cases hd
  rfl

/-- Date and time determine the second. -/
lemma dateTimeText_append_inj {t t' : Int} {r r' : List Char} (ht : InRange t) (ht' : InRange t')
    (hr : Text.Ends Char.isDigit r) (hr' : Text.Ends Char.isDigit r')
    (h : (dateTimeText t).toList ++ r = (dateTimeText t').toList ++ r') :
    t / 1000000 = t' / 1000000 ∧ r = r' := by
  have hrange : ∀ t : Int, -62135596800000000 ≤ t → -719468 ≤ t / 86400000000 := by
    intro t ht
    omega
  have hday := Numeric.civilFromDays_nonneg (hrange t ht.1)
  have hday' := Numeric.civilFromDays_nonneg (hrange t' ht'.1)
  have hclock : ∀ t : Int, 0 ≤ t % 86400000000 / 1000000 / 3600 ∧
      0 ≤ t % 86400000000 / 1000000 % 3600 / 60 ∧ 0 ≤ t % 86400000000 / 1000000 % 60 := by
    intro t
    omega
  rw [dateTimeText_toList, dateTimeText_toList] at h
  obtain ⟨hyear, h⟩ := zeroPad_append_inj hday.1 hday'.1 (.cons rfl _) (.cons rfl _) h
  obtain ⟨hmonth, h⟩ := zeroPad_append_inj hday.2.1 hday'.2.1 (.cons rfl _) (.cons rfl _)
    (List.cons.inj h).2
  obtain ⟨hdate, h⟩ := zeroPad_append_inj hday.2.2 hday'.2.2 (.cons rfl _) (.cons rfl _)
    (List.cons.inj h).2
  obtain ⟨hhour, h⟩ := zeroPad_append_inj (hclock t).1 (hclock t').1 (.cons rfl _) (.cons rfl _)
    (List.cons.inj h).2
  obtain ⟨hminute, h⟩ := zeroPad_append_inj (hclock t).2.1 (hclock t').2.1 (.cons rfl _)
    (.cons rfl _) (List.cons.inj h).2
  obtain ⟨hsecond, h⟩ := zeroPad_append_inj (hclock t).2.2 (hclock t').2.2 hr hr'
    (List.cons.inj h).2
  have hsame : t / 86400000000 = t' / 86400000000 :=
    Numeric.civilFromDays_injective (civilDate_ext hyear hmonth hdate)
  refine ⟨?_, h⟩
  omega

/-- A timestamp determines its instant. -/
theorem encodeTimestamp_injective {t t' : Int} (ht : InRange t) (ht' : InRange t')
    (h : encodeTimestamp t = encodeTimestamp t') : t = t' := by
  have hlist : ∀ t : Int, (encodeTimestamp t).toList =
      (dateTimeText t).toList ++ '.' :: ((Numeric.zeroPad 6 (t % 1000000)).toList ++ ['Z']) := by
    intro t
    simp [encodeTimestamp]
  have hmicros : ∀ t : Int, 0 ≤ t % 1000000 := fun t => Int.emod_nonneg _ (by decide)
  have heq := congrArg String.toList h
  rw [hlist, hlist] at heq
  obtain ⟨hsecond, hrest⟩ := dateTimeText_append_inj ht ht' (.cons rfl _) (.cons rfl _) heq
  obtain ⟨hmicro, -⟩ := zeroPad_append_inj (hmicros t) (hmicros t') (.cons rfl _) (.cons rfl _)
    (List.cons.inj hrest).2
  omega

/-- So does the rendering that omits a fraction of zero. -/
theorem isoformat_injective {t t' : Int} (ht : InRange t) (ht' : InRange t')
    (h : isoformat t = isoformat t') : t = t' := by
  have hmicros : ∀ t : Int, 0 ≤ t % 1000000 := fun t => Int.emod_nonneg _ (by decide)
  have hlist : ∀ t : Int, (isoformat t).toList = (dateTimeText t).toList ++
      (if t % 1000000 = 0 then "+00:00".toList
        else '.' :: ((Numeric.zeroPad 6 (t % 1000000)).toList ++ "+00:00".toList)) := by
    intro t
    unfold isoformat
    dsimp only
    split <;> simp
  have hends : ∀ t : Int, Text.Ends Char.isDigit (if t % 1000000 = 0 then "+00:00".toList
      else '.' :: ((Numeric.zeroPad 6 (t % 1000000)).toList ++ "+00:00".toList)) := by
    intro t
    split
    · exact .cons rfl _
    · exact .cons rfl _
  have heq := congrArg String.toList h
  rw [hlist, hlist] at heq
  obtain ⟨hsecond, hrest⟩ := dateTimeText_append_inj ht ht' (hends t) (hends t') heq
  have hmicro : t % 1000000 = t' % 1000000 := by
    split at hrest
    · next hzero =>
      split at hrest
      · next hzero' => omega
      · cases (List.cons.inj hrest).1
    · split at hrest
      · cases (List.cons.inj hrest).1
      · exact (zeroPad_append_inj (hmicros t) (hmicros t') (.cons rfl _) (.cons rfl _)
          (List.cons.inj hrest).2).1
  omega

end Datetime

-- ════════════════════════════════════════════════════════════════════════
-- Messages
-- ════════════════════════════════════════════════════════════════════════

namespace Canonical

/-- A value that can be encoded: the instant of a datetime lies in the range of UTC datetimes. -/
def Encodes : CanonicalValue → Prop
  | .datetime t => t.InRange
  | _ => True

lemma encodeValue_injective {v w : CanonicalValue} (hv : Encodes v) (hw : Encodes w)
    (h : encodeValue v = encodeValue w) : v = w := by
  cases v <;> cases w <;> simp [encodeValue] at h
  case str.str => rw [h]
  case int.int => rw [h]
  case bool.bool => rw [h]
  case datetime.datetime => rw [Datetime.encodeTimestamp_injective hv hw h]
  case none.none => rfl

lemma canon_encodeValue (v : CanonicalValue) : Json.canon (encodeValue v) = encodeValue v := by
  cases v <;> rfl

/-- The serialization of fields renders no floating-point number. -/
lemma floatText_none : Json.FloatText (fun _ => False) fun _ => "" where
  numeric _ h := h.elim
  nonempty _ h := h.elim
  ne_int _ _ h := h.elim
  injective _ _ h := h.elim

lemma floats_encoded (fields : List (String × CanonicalValue)) :
    Json.Floats (fun _ => False) (.obj (fields.map fun p => (p.1, encodeValue p.2))) := by
  refine Json.floatsFields_iff.mpr fun p hp => ?_
  obtain ⟨q, -, rfl⟩ := List.mem_map.mp hp
  cases q.2 <;> exact ⟨trivial, trivial, trivial⟩

/-- Encoded fields hold no unit separator. -/
lemma separator_notMem (fields : List (String × CanonicalValue)) :
    0x1f ∉ canonicalBytes fields := by
  intro h
  obtain ⟨b, hb, hsep⟩ := List.mem_map.mp h
  rw [Text.utf8_eq_flatMap, Json.dumps_toList] at hb
  obtain ⟨c, hc, hbyte⟩ := List.mem_flatMap.mp hb
  obtain ⟨hlow, hhigh⟩ := Json.printable_text floatText_none _
    (Json.floats_canon _ (floats_encoded fields)) c hc
  have hascii : String.utf8EncodeChar c = [UInt8.ofNat c.toNat] := by
    unfold String.utf8EncodeChar
    dsimp only
    rw [if_pos (by change c.toNat ≤ 127; omega)]
    rfl
  rw [hascii, List.mem_singleton] at hbyte
  rw [hbyte, UInt8.toNat_ofNat'] at hsep
  omega

lemma asciiBytes_injective {s s' : String} (h : asciiBytes s = asciiBytes s') : s = s' := by
  have hbytes : s.toUTF8.data.toList = s'.toUTF8.data.toList :=
    List.map_injective_iff.mpr (fun a b => UInt8.toNat_inj.mp) h
  have harray : s.toUTF8.data = s'.toUTF8.data := Array.toList_inj.mp hbytes
  apply String.toByteArray_inj.mp
  rw [← String.toUTF8_eq_toByteArray, ← String.toUTF8_eq_toByteArray]
  exact ByteArray.ext harray

/-- The last separator ends the domain. -/
lemma append_separator_inj {a a' b b' : List Nat} (hb : 0x1f ∉ b) (hb' : 0x1f ∉ b')
    (h : a ++ 0x1f :: b = a' ++ 0x1f :: b') : a = a' ∧ b = b' := by
  rcases List.append_eq_append_iff.mp h with ⟨c, rfl, hc⟩ | ⟨c, rfl, hc⟩
  · cases c with
    | nil => exact ⟨by simp, (List.cons.inj hc).2⟩
    | cons x c =>
      rw [(List.cons.inj hc).2] at hb
      exact absurd (List.mem_append_right c List.mem_cons_self) hb
  · cases c with
    | nil => exact ⟨by simp, (List.cons.inj hc).2.symm⟩
    | cons x c =>
      rw [(List.cons.inj hc).2] at hb'
      exact absurd (List.mem_append_right c List.mem_cons_self) hb'

/-- An entry of the fields with the same encoding is an entry of both. -/
lemma mem_of_encoded {f f' : List (String × CanonicalValue)} (hf : ∀ p ∈ f, Encodes p.2)
    (hf' : ∀ p ∈ f', Encodes p.2)
    (h : (f.map fun p => (p.1, encodeValue p.2)) ⊆ f'.map fun p => (p.1, encodeValue p.2)) :
    f ⊆ f' := by
  intro p hp
  obtain ⟨q, hq, heq⟩ := List.mem_map.mp (h (List.mem_map_of_mem hp))
  obtain ⟨hkey, hvalue⟩ := Prod.mk.inj heq
  have hsame : q = p := Prod.ext hkey (encodeValue_injective (hf' q hq) (hf p hp) hvalue)
  exact hsame ▸ hq

/-- Encoded fields determine the fields. -/
lemma fields_of_canonicalBytes {f f' : List (String × CanonicalValue)}
    (hf : ∀ p ∈ f, Encodes p.2) (hf' : ∀ p ∈ f', Encodes p.2)
    (h : canonicalBytes f = canonicalBytes f') : ∀ p, p ∈ f ↔ p ∈ f' := by
  have hperm := Json.perm_of_canon_obj (Json.canon_eq_of_dumps floatText_none (floats_encoded f)
    (floats_encoded f') (asciiBytes_injective h))
  simp only [List.map_map, Function.comp_def, canon_encodeValue] at hperm
  exact fun p => ⟨fun hp => mem_of_encoded hf hf' hperm.subset hp,
    fun hp => mem_of_encoded hf' hf hperm.symm.subset hp⟩

/-- A canonical message determines its domain and its fields. -/
lemma fields_of_canonicalMessage {d d' : String} {f f' : List (String × CanonicalValue)}
    (hf : ∀ p ∈ f, Encodes p.2) (hf' : ∀ p ∈ f', Encodes p.2)
    (h : canonicalMessage d f = canonicalMessage d' f') :
    d = d' ∧ ∀ key value, (key, value) ∈ f ↔ (key, value) ∈ f' := by
  obtain ⟨hdomain, hbody⟩ := append_separator_inj (separator_notMem f) (separator_notMem f') h
  exact ⟨asciiBytes_injective hdomain, fun key value =>
    fields_of_canonicalBytes hf hf' hbody (key, value)⟩

/-- A canonical message determines its domain and its fields: the keys, and for every key the type
and the value. Two different pairs of domain and fields have the same digest only if their messages
are a collision of SHA-256. -/
theorem canonical_message_injective {d d' : String} {f f' : List (String × CanonicalValue)}
    (hf : ∀ p ∈ f, Encodes p.2) (hf' : ∀ p ∈ f', Encodes p.2) :
    (canonicalMessage d f = canonicalMessage d' f' →
      d = d' ∧ ∀ key value, (key, value) ∈ f ↔ (key, value) ∈ f') ∧
    (canonicalDigest d f = canonicalDigest d' f' →
      (d = d' ∧ ∀ key value, (key, value) ∈ f ↔ (key, value) ∈ f') ∨
        (canonicalMessage d f ≠ canonicalMessage d' f' ∧
          Sha256.hexdigest (canonicalMessage d f) = Sha256.hexdigest (canonicalMessage d' f'))) := by
  refine ⟨fields_of_canonicalMessage hf hf', fun h => ?_⟩
  by_cases hmessage : canonicalMessage d f = canonicalMessage d' f'
  · exact .inl (fields_of_canonicalMessage hf hf' hmessage)
  · exact .inr ⟨hmessage, h⟩

/-- A text that looks like a number and the number are kept apart. -/
theorem canonical_message_injective_tags :
    canonicalMessage "domain" [("amount", .int 1), ("expires", .datetime 0)] ≠
      canonicalMessage "domain" [("amount", .str "1"), ("expires", .datetime 0)] := by
  have hencodes : ∀ v : CanonicalValue, ∀ p ∈ [("amount", v), ("expires", .datetime 0)],
      Encodes v → Encodes p.2 := by
    intro v p hp hv
    rcases List.mem_cons.mp hp with rfl | hp
    · exact hv
    · rw [List.mem_singleton.mp hp]
      exact ⟨by decide, by decide⟩
  intro h
  have hsame := ((canonical_message_injective (fun p hp => hencodes (.int 1) p hp trivial)
    (fun p hp => hencodes (.str "1") p hp trivial)).1 h).2 "amount" (.int 1)
  have hmem := hsame.mp List.mem_cons_self
  simp at hmem

end Canonical

-- ════════════════════════════════════════════════════════════════════════
-- Transactions and offers
-- ════════════════════════════════════════════════════════════════════════

namespace BoundTransaction

/-- The message a transaction's digest is computed of. -/
def message (t : BoundTransaction) : List Nat :=
  Canonical.canonicalMessage bindingVersion t.canonicalFields

lemma encodes_canonicalFields {t : BoundTransaction} (h : t.expiresAt.InRange) :
    ∀ p ∈ t.canonicalFields, Canonical.Encodes p.2 := by
  simp [canonicalFields, Canonical.Encodes, h]

/-- Equal fields make equal transactions. -/
lemma eq_of_canonicalFields {t t' : BoundTransaction}
    (h : ∀ key value, (key, value) ∈ t.canonicalFields → (key, value) ∈ t'.canonicalFields) :
    t = t' := by
  have h₁ := h "merchant_id" (.str t.merchantId) (by simp [canonicalFields])
  have h₂ := h "product_id" (.str t.productId) (by simp [canonicalFields])
  have h₃ := h "quantity" (.int t.quantity) (by simp [canonicalFields])
  have h₄ := h "amount_inr" (.int t.amountInr) (by simp [canonicalFields])
  have h₅ := h "currency" (.str t.currency) (by simp [canonicalFields])
  have h₆ := h "policy_version" (.str t.policyVersion) (by simp [canonicalFields])
  have h₇ := h "offer_version" (.str t.offerVersion) (by simp [canonicalFields])
  have h₈ := h "expires_at" (.datetime t.expiresAt) (by simp [canonicalFields])
  have h₉ := h "nonce" (.str t.nonce) (by simp [canonicalFields])
  simp [canonicalFields] at h₁ h₂ h₃ h₄ h₅ h₆ h₇ h₈ h₉
  cases t
  cases t'
  simp_all

/-- Where the messages are no collision of SHA-256, the digest determines the transaction. -/
lemma eq_of_digest {t t' : BoundTransaction} (hr : t.expiresAt.InRange) (hr' : t'.expiresAt.InRange)
    (hsha : Sha256.hexdigest t.message = Sha256.hexdigest t'.message → t.message = t'.message)
    (h : t.digest = t'.digest) : t = t' := by
  obtain ⟨-, hfields⟩ := Canonical.fields_of_canonicalMessage (encodes_canonicalFields hr)
    (encodes_canonicalFields hr') (hsha h)
  exact eq_of_canonicalFields fun key value => (hfields key value).mp

end BoundTransaction

/-- Where the messages are no collision of the truncated digest, the fingerprint determines the
fields of an offer. -/
lemma offerVersionFields_of_fingerprint {merchantId merchantId' productId productId' currency
    currency' : String} {amountInr amountInr' centis centis' : Int} {inStock inStock' : Bool}
    {offeredAt offeredAt' : Datetime} (hr : offeredAt.InRange) (hr' : offeredAt'.InRange)
    {f f' : List (String × CanonicalValue)}
    (hf : f = offerVersionFields merchantId productId amountInr currency centis inStock offeredAt)
    (hf' : f' = offerVersionFields merchantId' productId' amountInr' currency' centis' inStock'
      offeredAt')
    (hsha : offerFingerprint f = offerFingerprint f' →
      Canonical.canonicalMessage offerVersionDomain f = Canonical.canonicalMessage offerVersionDomain f')
    (h : offerFingerprint f = offerFingerprint f') :
    merchantId = merchantId' ∧ productId = productId' ∧ amountInr = amountInr' ∧
      currency = currency' ∧ centis = centis' ∧ inStock = inStock' ∧ offeredAt = offeredAt' := by
  obtain ⟨-, hfields⟩ := Canonical.fields_of_canonicalMessage
    (by rw [hf]; simp [offerVersionFields, Canonical.Encodes, hr])
    (by rw [hf']; simp [offerVersionFields, Canonical.Encodes, hr']) (hsha h)
  subst hf hf'
  have h₁ := (hfields "merchant_id" (.str merchantId)).mp (by simp [offerVersionFields])
  have h₂ := (hfields "product_id" (.str productId)).mp (by simp [offerVersionFields])
  have h₃ := (hfields "amount_inr" (.int amountInr)).mp (by simp [offerVersionFields])
  have h₄ := (hfields "currency" (.str currency)).mp (by simp [offerVersionFields])
  have h₅ := (hfields "rating_centis" (.int centis)).mp (by simp [offerVersionFields])
  have h₆ := (hfields "in_stock" (.bool inStock)).mp (by simp [offerVersionFields])
  have h₇ := (hfields "offered_at" (.datetime offeredAt)).mp (by simp [offerVersionFields])
  simp [offerVersionFields] at h₁ h₂ h₃ h₄ h₅ h₆ h₇
  exact ⟨h₁, h₂, h₃, h₄, h₅, h₆, h₇⟩

end Pactra
