import Mathlib.Data.List.Infix
import Mathlib.Data.List.Nodup
import Mathlib.Logic.ExistsUnique
import Pactra.PaymentExecutor.Providers.Razorpay

/-!
# The receipt search

Razorpay lists orders newest first and filters them by a contains-match. While the pages of a search
are fetched, new orders may be prepended, so that orders move to later positions and can be listed
twice. An order that is not on the pages read so far stays behind the next offset, and a short page
ends the list.

## Main results

- `searchPages_step` — what reading one page can do
- `searched` — how a search ends, from the pages that it read
- `receipt_search_is_exhaustive` — the search, and the lookup by idempotency key that rests on it
- `nameless_order_is_not_ambiguous` — an order without an id ends a search before it is ambiguous
-/

namespace Pactra

namespace Razorpay

-- ════════════════════════════════════════════════════════════════════════
-- The remote list
-- ════════════════════════════════════════════════════════════════════════

/-- An order has exactly the receipt. -/
def HasReceipt (receipt : String) (order : Members) : Prop :=
  isText (order.lookup "receipt") receipt = true

/-- The orders of the account as a search goes on: those there are when the `k`-th page is fetched.
They have distinct string ids; between fetches orders are prepended and none changes, in the
comparison that the search makes. The filter of the server passes at least the orders with exactly
the receipt. -/
structure Remote where
  orders : Nat → List Members
  passes : String → Members → Bool
  ids : ∀ k, ∀ o ∈ orders k, ∃ id, o.lookup "id" = some (.str id)
  distinct : ∀ k, ((orders k).map fun o => o.lookup "id").Nodup
  grows : ∀ k, ∃ new, orders (k + 1) = new ++ orders k
  unchanged : ∀ k, ∀ o ∈ orders k, (Wire.Value.obj o).pyEq (.obj o) = true
  exact : ∀ receipt o, HasReceipt receipt o → passes receipt o = true

namespace Remote

/-- What the filter of the server passes. -/
def matching (remote : Remote) (receipt : String) (k : Nat) : List Members :=
  (remote.orders k).filter (remote.passes receipt)

/-- The `k`-th page: `count` orders after `skip` of them. -/
def page (remote : Remote) (receipt : String) (k : Nat) : List Members :=
  ((remote.matching receipt k).drop (k * pageSize)).take pageSize

end Remote

/-- The client lists the remote orders: it accepts the path, and a page that can be read is the
page that was asked for. -/
structure Serves (http : Http) (remote : Remote) (receipt : String) (n : Nat) : Prop where
  accepts : http.acceptsPath "/orders" = true
  pages : ∀ k r items, http.send (n + k) (pageRequest receipt k) = .response r →
    pageItems r = .ok items → items = (remote.page receipt k).map Wire.Value.obj

/-- The first pages can be read. -/
def Reads (http : Http) (receipt : String) (n pages : Nat) : Prop :=
  ∀ k < pages, ∃ r code items, http.send (n + k) (pageRequest receipt k) = .response r ∧
    statusCode r = .ok code ∧ (200 ≤ code ∧ code < 300) ∧ pageItems r = .ok items

/-- The orders with the receipt on the first pages have ids that are not empty. -/
def Named (remote : Remote) (receipt : String) (pages : Nat) : Prop :=
  ∀ k < pages, ∀ o ∈ remote.page receipt k, HasReceipt receipt o → o.lookup "id" ≠ some (.str "")

section Remote

variable {remote : Remote} {receipt : String} {j k : Nat} {o o' : Members}

lemma Remote.orders_mono (h : j ≤ k) : remote.orders j <:+ remote.orders k := by
  induction k, h using Nat.le_induction with
  | base => exact List.suffix_refl _
  | succ k _ ih =>
    obtain ⟨new, hnew⟩ := remote.grows k
    rw [hnew]
    exact ih.trans (List.suffix_append new _)

lemma Remote.matching_succ (remote : Remote) (receipt : String) (k : Nat) :
    remote.matching receipt k <:+ remote.matching receipt (k + 1) := by
  obtain ⟨new, hnew⟩ := remote.grows k
  unfold matching
  rw [hnew, List.filter_append]
  exact List.suffix_append _ _

/-- An order is known by its id. -/
lemma Remote.eq_of_id (ho : o ∈ remote.orders k) (ho' : o' ∈ remote.orders k)
    (h : o.lookup "id" = o'.lookup "id") : o = o' :=
  List.inj_on_of_nodup_map (remote.distinct k) ho ho' h

lemma Remote.mem_orders_of_mem_page (h : o ∈ remote.page receipt k) : o ∈ remote.orders k :=
  (List.mem_filter.mp (List.mem_of_mem_drop (List.mem_of_mem_take h))).1

/-- What is behind an offset stays behind it when a list grows at its front. -/
lemma drop_suffix_drop {α : Type} {l l' : List α} (h : l <:+ l') (n : Nat) :
    l.drop n <:+ l'.drop n := by
  have hlength := h.length_le
  refine List.suffix_of_suffix_length_le ((List.drop_suffix n l).trans h) (List.drop_suffix n l') ?_
  rw [List.length_drop, List.length_drop]
  omega

end Remote

-- ════════════════════════════════════════════════════════════════════════
-- One page
-- ════════════════════════════════════════════════════════════════════════

/-- What was found so far: orders with the receipt, each under its own id. -/
structure Recorded (remote : Remote) (receipt : String) (k : Nat)
    (exactById : List (String × Members)) : Prop where
  keys : (exactById.map Prod.fst).Nodup
  entries : ∀ p ∈ exactById, p.2.lookup "id" = some (.str p.1) ∧ HasReceipt receipt p.2 ∧
    p.2 ∈ remote.orders k

section Page

variable {remote : Remote} {receipt : String} {k : Nat}

lemma textMember_ok {value : Option Value} {holds : String → Bool} {message s : String}
    (h : textMember value holds message = .ok s) : value = some (.str s) ∧ holds s = true := by
  unfold textMember at h
  split at h
  · split at h
    · next s' hs =>
      obtain rfl := Except.ok.inj h
      exact ⟨rfl, hs⟩
    · cases h
  · cases h

lemma textMember_error {value : Option Value} {holds : String → Bool} {message : String} {e : Exc}
    (h : textMember value holds message = .error e) : e = .valueError message := by
  unfold textMember at h
  split at h
  · split at h
    · cases h
    · exact (Except.error.inj h).symm
  · exact (Except.error.inj h).symm

/-- One item with the receipt: it is recorded under its id, or was before. -/
lemma collectExact_cons {item : Members} (hitem : HasReceipt receipt item) (items : List Value)
    (exactById : List (String × Members)) :
    collectExact receipt (.obj item :: items) exactById =
      (do
        let orderId ← textMember (item.lookup "id") (· ≠ "")
          "matching order id is missing or malformed"
        match exactById.lookup orderId with
        | none => collectExact receipt items (exactById ++ [(orderId, item)])
        | some previous =>
          if !(Wire.Value.obj previous).pyEq (.obj item) then
            .error (.valueError "matching order changed across search pages")
          else collectExact receipt items exactById) :=
  if_neg (by rw [hitem]; simp)

lemma collectExact_skip {item : Members} (hitem : ¬HasReceipt receipt item) (items : List Value)
    (exactById : List (String × Members)) :
    collectExact receipt (.obj item :: items) exactById =
      collectExact receipt items exactById := by
  have hfalse : isText (item.lookup "receipt") receipt = false := Bool.not_eq_true _ ▸ hitem
  rw [collectExact, if_pos (by rw [hfalse]; rfl)]

/-- A new order is recorded under its id. -/
lemma Recorded.add {exactById : List (String × Members)} {orderId : String} {item : Members}
    (h : Recorded remote receipt k exactById) (hnew : exactById.lookup orderId = none)
    (hid : item.lookup "id" = some (.str orderId)) (hexact : HasReceipt receipt item)
    (hhere : item ∈ remote.orders k) :
    Recorded remote receipt k (exactById ++ [(orderId, item)]) := by
  have hfresh : orderId ∉ exactById.map Prod.fst := by
    intro hmem
    obtain ⟨p, hp, rfl⟩ := List.mem_map.mp hmem
    have hsome := List.lookup_eq_none_iff.mp hnew p hp
    simp at hsome
  refine ⟨?_, fun p hp => ?_⟩
  · rw [List.map_append, List.nodup_append]
    refine ⟨h.keys, by simp, ?_⟩
    intro a ha b hb
    obtain rfl : b = orderId := by simpa using hb
    rintro rfl
    exact hfresh ha
  · rcases List.mem_append.mp hp with hp | hp
    · exact h.entries p hp
    · obtain rfl := List.mem_singleton.mp hp
      exact ⟨hid, hexact, hhere⟩

/-- What is recorded under the id of an order is that order. -/
lemma Recorded.lookup {exactById : List (String × Members)} {orderId : String}
    {item previous : Members} (h : Recorded remote receipt k exactById)
    (hbefore : exactById.lookup orderId = some previous)
    (hid : item.lookup "id" = some (.str orderId)) (hhere : item ∈ remote.orders k) :
    previous = item ∧ item ∈ exactById.map Prod.snd := by
  have hprevious : (orderId, previous) ∈ exactById := by
    obtain ⟨before, after, hsplit, -⟩ := List.lookup_eq_some_iff.mp hbefore
    rw [hsplit]
    simp
  obtain ⟨hpid, -, hthere⟩ := h.entries _ hprevious
  obtain rfl : previous = item := Remote.eq_of_id hthere hhere (hpid.trans hid.symm)
  exact ⟨rfl, List.mem_map_of_mem hprevious⟩

/-- A page that is read records its orders with the receipt, and nothing else. -/
lemma collectExact_ok {items : List Members} (hitems : ∀ o ∈ items, o ∈ remote.orders k)
    {exactById found : List (String × Members)} (hrecorded : Recorded remote receipt k exactById)
    (h : collectExact receipt (items.map Wire.Value.obj) exactById = .ok found) :
    Recorded remote receipt k found ∧ ∀ o, o ∈ found.map Prod.snd ↔
      o ∈ exactById.map Prod.snd ∨ (o ∈ items ∧ HasReceipt receipt o) := by
  induction items generalizing exactById with
  | nil =>
    obtain rfl := Except.ok.inj h
    exact ⟨hrecorded, by simp⟩
  | cons item items ih =>
    have hrest : ∀ o ∈ items, o ∈ remote.orders k := fun o ho => hitems o (by simp [ho])
    have hhere : item ∈ remote.orders k := hitems item (by simp)
    rw [List.map_cons] at h
    by_cases hexact : HasReceipt receipt item
    · rw [collectExact_cons hexact] at h
      obtain ⟨orderId, hid, h⟩ := Tx.except_bind_ok.mp h
      obtain ⟨hid, -⟩ := textMember_ok hid
      split at h
      · next hnew =>
        have hadded := hrecorded.add hnew hid hexact hhere
        obtain ⟨hfound, hmem⟩ := ih hrest hadded h
        refine ⟨hfound, fun o => ?_⟩
        rw [hmem]
        simp only [List.map_append, List.map_cons, List.map_nil, List.mem_append, List.mem_cons,
          List.not_mem_nil, or_false]
        constructor
        · rintro ((ho | rfl) | ⟨ho, ho'⟩)
          · exact .inl ho
          · exact .inr ⟨.inl rfl, hexact⟩
          · exact .inr ⟨.inr ho, ho'⟩
        · rintro (ho | ⟨rfl | ho, ho'⟩)
          · exact .inl (.inl ho)
          · exact .inl (.inr rfl)
          · exact .inr ⟨ho, ho'⟩
      · next previous hbefore =>
        split at h
        · cases h
        · obtain ⟨hfound, hmem⟩ := ih hrest hrecorded h
          obtain ⟨-, hold⟩ := hrecorded.lookup hbefore hid hhere
          refine ⟨hfound, fun o => ?_⟩
          rw [hmem]
          simp only [List.mem_cons]
          constructor
          · rintro (ho | ⟨ho, ho'⟩)
            · exact .inl ho
            · exact .inr ⟨.inr ho, ho'⟩
          · rintro (ho | ⟨rfl | ho, ho'⟩)
            · exact .inl ho
            · exact .inl hold
            · exact .inr ⟨ho, ho'⟩
    · rw [collectExact_skip hexact] at h
      obtain ⟨hfound, hmem⟩ := ih hrest hrecorded h
      refine ⟨hfound, fun o => ?_⟩
      rw [hmem]
      simp only [List.mem_cons]
      constructor
      · rintro (ho | ⟨ho, ho'⟩)
        · exact .inl ho
        · exact .inr ⟨.inr ho, ho'⟩
      · rintro (ho | ⟨rfl | ho, ho'⟩)
        · exact .inl ho
        · exact absurd ho' hexact
        · exact .inr ⟨ho, ho'⟩

/-- Reading the items of a page fails with a `ValueError` only. -/
lemma collectExact_error {items : List Value} {exactById : List (String × Members)} {e : Exc}
    (h : collectExact receipt items exactById = .error e) : ∃ text, e = .valueError text := by
  induction items generalizing exactById with
  | nil => cases h
  | cons item items ih =>
    cases item with
    | obj item =>
      by_cases hexact : HasReceipt receipt item
      · rw [collectExact_cons hexact] at h
        cases hid : textMember (item.lookup "id") (· ≠ "")
            "matching order id is missing or malformed" with
        | error e' =>
          rw [hid] at h
          obtain rfl := Except.error.inj h
          exact ⟨_, textMember_error hid⟩
        | ok orderId =>
          rw [hid] at h
          change (match exactById.lookup orderId with
            | none => _
            | some previous => _) = _ at h
          split at h
          · exact ih h
          · split at h
            · exact ⟨_, (Except.error.inj h).symm⟩
            · exact ih h
      · rw [collectExact_skip hexact] at h
        exact ih h
    | null | bool | int | float | str | arr => exact ih h

/-- Orders with ids that are not empty are recorded without failure. -/
lemma collectExact_total {items : List Members} (hitems : ∀ o ∈ items, o ∈ remote.orders k)
    (hnamed : ∀ o ∈ items, HasReceipt receipt o → o.lookup "id" ≠ some (.str ""))
    {exactById : List (String × Members)} (hrecorded : Recorded remote receipt k exactById) :
    ∃ found, collectExact receipt (items.map Wire.Value.obj) exactById = .ok found := by
  induction items generalizing exactById with
  | nil => exact ⟨exactById, rfl⟩
  | cons item items ih =>
    have hrest : ∀ o ∈ items, o ∈ remote.orders k := fun o ho => hitems o (by simp [ho])
    have hnamed' : ∀ o ∈ items, HasReceipt receipt o → o.lookup "id" ≠ some (.str "") :=
      fun o ho => hnamed o (by simp [ho])
    have hhere : item ∈ remote.orders k := hitems item (by simp)
    rw [List.map_cons]
    by_cases hexact : HasReceipt receipt item
    · obtain ⟨orderId, hid⟩ := remote.ids k item hhere
      have hne : orderId ≠ "" := by
        rintro rfl
        exact hnamed item (by simp) hexact hid
      have hmember : textMember (item.lookup "id") (· ≠ "")
          "matching order id is missing or malformed" = .ok orderId := by
        simp [textMember, hid, hne]
      rw [collectExact_cons hexact, hmember]
      dsimp only [bind, Except.bind]
      split
      · next hnew => exact ih hrest hnamed' (hrecorded.add hnew hid hexact hhere)
      · next previous hbefore =>
        obtain ⟨rfl, -⟩ := hrecorded.lookup hbefore hid hhere
        rw [remote.unchanged k previous hhere]
        exact ih hrest hnamed' hrecorded
    · rw [collectExact_skip hexact]
      exact ih hrest hnamed' hrecorded

lemma jsonObject_error {r : HttpResponse} {e : Exc} (h : jsonObject r = .error e) :
    ∃ text, e = .valueError text := by
  unfold jsonObject at h
  split at h
  · exact ⟨_, (Except.error.inj h).symm⟩
  · cases h
  · exact ⟨_, (Except.error.inj h).symm⟩

lemma pageItems_error {r : HttpResponse} {e : Exc} (h : pageItems r = .error e) :
    ∃ text, e = .valueError text := by
  unfold pageItems at h
  cases hparsed : jsonObject r with
  | error e' =>
    rw [hparsed] at h
    obtain rfl := Except.error.inj h
    exact jsonObject_error hparsed
  | ok parsed =>
    rw [hparsed] at h
    dsimp only [bind, Except.bind] at h
    split at h
    · split at h
      · exact ⟨_, (Except.error.inj h).symm⟩
      · cases h
    · exact ⟨_, (Except.error.inj h).symm⟩

end Page

-- ════════════════════════════════════════════════════════════════════════
-- The whole search
-- ════════════════════════════════════════════════════════════════════════

/-- The orders with the receipt on the pages up to one. -/
def Seen (remote : Remote) (receipt : String) (last : Nat) (o : Members) : Prop :=
  HasReceipt receipt o ∧ ∃ k ≤ last, o ∈ remote.page receipt k

/-- A page is the first one that is not full, within the bound on pages. -/
structure EndsAt (remote : Remote) (receipt : String) (last : Nat) : Prop where
  bounded : last < maxPages
  full : ∀ k < last, (remote.page receipt k).length = pageSize
  short : (remote.page receipt last).length < pageSize

lemma EndsAt.unique {remote : Remote} {receipt : String} {j k : Nat}
    (hj : EndsAt remote receipt j) (hk : EndsAt remote receipt k) : j = k := by
  rcases Nat.lt_trichotomy j k with hlt | heq | hlt
  · have := hk.full j hlt
    have := hj.short
    omega
  · exact heq
  · have := hj.full k hlt
    have := hk.short
    omega

/-- How a search from the `n`-th request on ends: with a short page after full ones, and then all
orders with the receipt on these pages; with the bound on pages, all of them full; or at the first
page that could not be read. -/
inductive Searched (http : Http) (remote : Remote) (receipt : String) (n : Nat) :
    Except Exc (List Members) × Nat → Prop where
  | found {last : Nat} {exact : List Members} (hlast : EndsAt remote receipt last)
      (hnodup : exact.Nodup)
      (hseen : ∀ o, o ∈ exact ↔ Seen remote receipt last o)
      (hstart : ∀ o ∈ remote.orders 0, HasReceipt receipt o → o ∈ exact) :
      Searched http remote receipt n (.ok exact, n + last + 1)
  | exceeded (detail : String) (hfull : ∀ k < maxPages, (remote.page receipt k).length = pageSize) :
      Searched http remote receipt n (.error (providerError .ambiguity detail), n + maxPages)
  | failed {e : ProviderError} {k : Nat} (hk : k < maxPages)
      (hfull : ∀ j < k, (remote.page receipt j).length = pageSize)
      (hbroken : ¬(Reads http receipt n (k + 1) ∧ Named remote receipt (k + 1))) :
      Searched http remote receipt n (.error (.provider e), n + k + 1)

section Search

variable {http : Http} {remote : Remote} {receipt : String} {n : Nat}

/-- What a search knows before it reads a page: the orders with the receipt on the pages before it
are recorded, and those that were there at the start and are not recorded lie behind its offset. -/
structure Progress (remote : Remote) (receipt : String) (k : Nat)
    (exactById : List (String × Members)) : Prop where
  recorded : Recorded remote receipt k exactById
  seen : ∀ o, o ∈ exactById.map Prod.snd ↔ HasReceipt receipt o ∧ ∃ j < k, o ∈ remote.page receipt j
  ahead : ∀ o ∈ remote.orders 0, HasReceipt receipt o → o ∈ exactById.map Prod.snd ∨
    o ∈ (remote.matching receipt k).drop (k * pageSize)
  full : ∀ j < k, (remote.page receipt j).length = pageSize

lemma Progress.start : Progress remote receipt 0 [] := by
  refine ⟨⟨List.nodup_nil, by simp⟩, by simp, fun o ho hexact => .inr ?_, by simp⟩
  rw [Nat.zero_mul, List.drop_zero]
  exact List.mem_filter.mpr ⟨ho, remote.exact receipt o hexact⟩

lemma Recorded.mono {k : Nat} {exactById : List (String × Members)}
    (h : Recorded remote receipt k exactById) : Recorded remote receipt (k + 1) exactById :=
  ⟨h.keys, fun p hp => ⟨(h.entries p hp).1, (h.entries p hp).2.1,
    (Remote.orders_mono (Nat.le_succ k)).subset (h.entries p hp).2.2⟩⟩

section Step

variable {k : Nat} {exactById found : List (String × Members)}

/-- What is known once a page was read. -/
lemma Progress.read (h : Progress remote receipt k exactById)
    (hfound : collectExact receipt ((remote.page receipt k).map Wire.Value.obj) exactById = .ok found) :
    Recorded remote receipt k found ∧ (∀ o, o ∈ found.map Prod.snd ↔ Seen remote receipt k o) ∧
      ∀ o ∈ remote.orders 0, HasReceipt receipt o → o ∈ found.map Prod.snd ∨
        o ∈ (remote.matching receipt k).drop ((k + 1) * pageSize) := by
  obtain ⟨hrecorded, hmem⟩ := collectExact_ok (fun o => Remote.mem_orders_of_mem_page) h.recorded
    hfound
  refine ⟨hrecorded, fun o => ?_, fun o ho hexact => ?_⟩
  · rw [hmem, h.seen]
    unfold Seen
    constructor
    · rintro (⟨hexact, j, hj, ho⟩ | ⟨ho, hexact⟩)
      · exact ⟨hexact, j, by omega, ho⟩
      · exact ⟨hexact, k, le_refl k, ho⟩
    · rintro ⟨hexact, j, hj, ho⟩
      rcases Nat.lt_or_eq_of_le hj with hj | rfl
      · exact .inl ⟨hexact, j, hj, ho⟩
      · exact .inr ⟨ho, hexact⟩
  · rw [hmem]
    rcases h.ahead o ho hexact with hold | hahead
    · exact .inl (.inl hold)
    · -- behind the offset: on this page, or behind the next offset
      rw [← List.take_append_drop pageSize ((remote.matching receipt k).drop (k * pageSize)),
        List.drop_drop] at hahead
      rcases List.mem_append.mp hahead with hpage | hlater
      · exact .inl (.inr ⟨hpage, hexact⟩)
      · refine .inr ?_
        rw [Nat.succ_mul]
        exact hlater

/-- Reading a full page leads on to the next one. -/
lemma Progress.next (h : Progress remote receipt k exactById)
    (hfound : collectExact receipt ((remote.page receipt k).map Wire.Value.obj) exactById = .ok found)
    (hfull : (remote.page receipt k).length = pageSize) : Progress remote receipt (k + 1) found := by
  obtain ⟨hrecorded, hseen, hahead⟩ := h.read hfound
  refine ⟨hrecorded.mono, fun o => ?_, fun o ho hexact => ?_, fun j hj => ?_⟩
  · rw [hseen, Seen]
    simp only [Nat.lt_succ_iff]
  · refine (hahead o ho hexact).imp_right fun hlater => ?_
    exact (drop_suffix_drop (remote.matching_succ receipt k) _).subset hlater
  · rcases Nat.lt_or_eq_of_le (Nat.lt_succ_iff.mp hj) with hj | rfl
    · exact h.full j hj
    · exact hfull

/-- A short page ends the list: nothing lies behind it. -/
lemma drop_eq_nil_of_short (hshort : (remote.page receipt k).length < pageSize) :
    (remote.matching receipt k).drop ((k + 1) * pageSize) = [] := by
  unfold Remote.page at hshort
  rw [List.length_take, List.length_drop] at hshort
  rw [List.drop_eq_nil_iff, Nat.succ_mul]
  omega

end Step

lemma run_request_refused {req : HttpRequest} (h : http.acceptsPath req.path = false) (m : Nat) :
    (request http req).run m = (.error (.other "InvalidURL" req.path), m) := by
  change (if _ then _ else _) = _
  rw [h]
  rfl

lemma run_request_response {req : HttpRequest} (h : http.acceptsPath req.path = true) {m : Nat}
    {r : HttpResponse} (hsent : http.send m req = .response r) :
    (request http req).run m = (.ok r, m + 1) := by
  change (if _ then _ else _) = _
  rw [h]
  simp only [Bool.not_true, Bool.false_eq_true, if_false, hsent]

lemma run_request_failure {req : HttpRequest} (h : http.acceptsPath req.path = true) {m : Nat}
    {name : String} (hsent : http.send m req = .transportFailure name) :
    (request http req).run m = (.error (providerError .timeout
      ("bounded " ++ req.method.name ++ " transport failure (" ++ name ++ ")")), m + 1) := by
  change (if _ then _ else _) = _
  rw [h]
  simp only [Bool.not_true, Bool.false_eq_true, if_false, hsent]

lemma statusCode_ok {r : HttpResponse} {code : Int} :
    statusCode r = .ok code ↔ r.statusCode = some code := by
  unfold statusCode
  cases r.statusCode with
  | none => simp
  | some code' => simp

lemma statusCode_error {r : HttpResponse} {e : Exc} (h : statusCode r = .error e) :
    e = .valueError "response has no valid HTTP status" := by
  unfold statusCode at h
  split at h
  · cases h
  · exact (Except.error.inj h).symm

lemma run_classifying_ok {α : Type} (classified : String → Exc) (a : α) (m : Nat) :
    (classifying classified (.ok a)).run m = (.ok a, m) := rfl

lemma run_classifying_valueError {α : Type} (classified : String → Exc) (text : String) (m : Nat) :
    (classifying classified (.error (.valueError text) : Except Exc α)).run m =
      (.error (classified text), m) := rfl

/-- What reading one page can do: it fails, or its orders are recorded, and the search ends there or
goes on. -/
lemma searchPages_step (hserves : Serves http remote receipt n) (left : Nat) {k : Nat}
    {exactById : List (String × Members)} (h : Progress remote receipt k exactById) :
    (∃ e, (searchPages http receipt (left + 1) k exactById).run (n + k) =
        (.error (.provider e), n + k + 1) ∧
        ¬(Reads http receipt n (k + 1) ∧ Named remote receipt (k + 1))) ∨
    ∃ found, collectExact receipt ((remote.page receipt k).map Wire.Value.obj) exactById = .ok found ∧
      (searchPages http receipt (left + 1) k exactById).run (n + k) =
        if (remote.page receipt k).length < pageSize then (.ok (found.map Prod.snd), n + k + 1)
        else (searchPages http receipt left (k + 1) found).run (n + k + 1) := by
  generalize hrun : (searchPages http receipt (left + 1) k exactById).run (n + k) = out
  rw [searchPages] at hrun
  cases hsent : http.send (n + k) (pageRequest receipt k) with
  | transportFailure name =>
    rw [Tx.run_bind_of_error (run_request_failure hserves.accepts hsent)] at hrun
    refine .inl ⟨_, hrun.symm, fun hreads => ?_⟩
    obtain ⟨r, code, items, hr, -⟩ := hreads.1 k (Nat.lt_succ_self k)
    rw [hsent] at hr
    cases hr
  | response r =>
    replace hrun := Tx.rest_of_ok (run_request_response hserves.accepts hsent) hrun
    have hread : Reads http receipt n (k + 1) → ∃ code items, statusCode r = .ok code ∧
        (200 ≤ code ∧ code < 300) ∧ pageItems r = .ok items := fun hreads => by
      obtain ⟨r', code, items, hr, hrest⟩ := hreads k (Nat.lt_succ_self k)
      rw [hsent] at hr
      obtain rfl := Sent.response.inj hr
      exact ⟨code, items, hrest⟩
    cases hcode : statusCode r with
    | error e =>
      obtain rfl := statusCode_error hcode
      rw [hcode, Tx.run_bind_of_error (run_classifying_valueError _ _ _)] at hrun
      refine .inl ⟨_, hrun.symm, fun hreads => ?_⟩
      obtain ⟨code, items, hcode', -⟩ := hread hreads.1
      cases hcode.symm.trans hcode'
    | ok code =>
      rw [hcode] at hrun
      replace hrun := Tx.rest_of_ok (run_classifying_ok _ _ _) hrun
      by_cases hstatus : 200 ≤ code ∧ code < 300
      · rw [if_neg (not_not.mpr hstatus)] at hrun
        cases hitems : pageItems r with
        | error e =>
          obtain ⟨text, rfl⟩ := pageItems_error hitems
          have hpage : readPage receipt r exactById = .error (.valueError text) := by
            rw [readPage, hitems]
            rfl
          rw [hpage, Tx.run_bind_of_error (run_classifying_valueError _ _ _)] at hrun
          refine .inl ⟨_, hrun.symm, fun hreads => ?_⟩
          obtain ⟨_, items, -, -, hitems'⟩ := hread hreads.1
          cases hitems.symm.trans hitems'
        | ok items =>
          obtain rfl := hserves.pages k r items hsent hitems
          cases hfound : collectExact receipt ((remote.page receipt k).map Wire.Value.obj) exactById with
          | error e =>
            obtain ⟨text, rfl⟩ := collectExact_error hfound
            have hpage : readPage receipt r exactById = .error (.valueError text) := by
              rw [readPage, hitems]
              dsimp only [bind, Except.bind]
              rw [hfound]
            rw [hpage, Tx.run_bind_of_error (run_classifying_valueError _ _ _)] at hrun
            refine .inl ⟨_, hrun.symm, fun hreads => ?_⟩
            have hhere : ∀ o ∈ remote.page receipt k, o ∈ remote.orders k :=
              fun o => Remote.mem_orders_of_mem_page
            obtain ⟨found, hfound'⟩ :=
              collectExact_total hhere (hreads.2 k (Nat.lt_succ_self k)) h.recorded
            cases hfound.symm.trans hfound'
          | ok found =>
            have hpage : readPage receipt r exactById =
                .ok ((remote.page receipt k).length, found) := by
              rw [readPage, hitems]
              dsimp only [bind, Except.bind]
              rw [hfound]
              simp [pure, Except.pure]
            rw [hpage] at hrun
            replace hrun := Tx.rest_of_ok (run_classifying_ok _ _ _) hrun
            refine .inr ⟨found, rfl, hrun.symm.trans ?_⟩
            dsimp only
            split <;> rfl
      · rw [if_pos hstatus] at hrun
        refine .inl ⟨_, hrun.symm, fun hreads => ?_⟩
        obtain ⟨code', items, hcode', hstatus', -⟩ := hread hreads.1
        obtain rfl := Except.ok.inj (hcode.symm.trans hcode')
        exact hstatus hstatus'

/-- How a search ends, from any page on. -/
lemma searchPages_searched (hserves : Serves http remote receipt n) {left k : Nat}
    (hleft : k + left = maxPages) {exactById : List (String × Members)}
    (h : Progress remote receipt k exactById) :
    Searched http remote receipt n ((searchPages http receipt left k exactById).run (n + k)) := by
  induction left generalizing k exactById with
  | zero =>
    obtain rfl : k = maxPages := by omega
    exact .exceeded _ h.full
  | succ left ih =>
    have hk : k < maxPages := by omega
    rcases searchPages_step hserves left h with ⟨e, hrun, hbroken⟩ | ⟨found, hfound, hrun⟩
    · rw [hrun]
      exact .failed hk h.full hbroken
    · rw [hrun]
      have hlength : (remote.page receipt k).length ≤ pageSize := by
        unfold Remote.page
        exact List.length_take_le _ _
      split
      · next hshort =>
        obtain ⟨hrecorded, hseen, hahead⟩ := h.read hfound
        refine .found ⟨hk, h.full, hshort⟩ ?_ hseen fun o ho hexact => ?_
        · -- distinct keys, and each order has its key as id
          refine List.Nodup.of_map (fun o : Members => o.lookup "id") ?_
          have hids : (found.map Prod.snd).map (fun o : Members => o.lookup "id") =
              (found.map Prod.fst).map fun id => some (.str id) := by
            rw [List.map_map, List.map_map]
            exact List.map_congr_left fun p hp => (hrecorded.entries p hp).1
          rw [hids]
          refine hrecorded.keys.map fun a b hab => ?_
          simpa using hab
        · refine (hahead o ho hexact).resolve_right ?_
          rw [drop_eq_nil_of_short hshort]
          exact List.not_mem_nil
      · next hfull => exact ih (by omega) (h.next hfound (by omega))

theorem searched (hserves : Serves http remote receipt n) :
    Searched http remote receipt n ((ordersWithExactReceipt http receipt).run n) :=
  searchPages_searched hserves (Nat.zero_add _) Progress.start

/-- The lookup by a key raises what the search raises, and otherwise decides on the orders it
found. -/
lemma run_getOrderByKey (http : Http) (n : Nat) (key : String) :
    (getPayment http none (some key)).run n =
      match (ordersWithExactReceipt http (receiptForIdempotencyKey key)).run n with
      | (.error e, m) => (.error e, m)
      | (.ok [], m) => (.ok none, m)
      | (.ok [order], m) => (do
          let payment ← classifying (fun text => providerError .transient
            ("malformed Order search response: " ++ text)) (orderToPayment order (some key))
          some <$> settled http payment : Calls (Option ProviderPayment)).run m
      | (.ok exact, m) => (.error (providerError .ambiguity (toString exact.length ++
          " Razorpay Orders share one PACTRA receipt; refusing ambiguity")), m) := by
  change (getOrderByKey http key).run n = _
  rw [getOrderByKey]
  rcases hrun : (ordersWithExactReceipt http (receiptForIdempotencyKey key)).run n with ⟨e | exact, m⟩
  · exact Tx.run_bind_of_error hrun
  · rw [Tx.run_bind_of_ok hrun]
    rcases exact with _ | ⟨order, _ | ⟨order', rest⟩⟩ <;> rfl

lemma run_map_some_ne {α : Type} {x : Calls α} {m m' : Nat} :
    (some <$> x).run m ≠ (.ok none, m') := by
  intro h
  obtain ⟨a, m'', -, hpure⟩ := Tx.bind_ok.mp (show (x >>= fun a => pure (some a)).run m = _ from h)
  cases hpure

/-- A search that can read its pages up to a short one does not fail before it. -/
lemma not_failed {last k : Nat} (hlast : EndsAt remote receipt last)
    (hreads : Reads http receipt n (last + 1)) (hnamed : Named remote receipt (last + 1))
    (hfull : ∀ j < k, (remote.page receipt j).length = pageSize)
    (hbroken : ¬(Reads http receipt n (k + 1) ∧ Named remote receipt (k + 1))) : False := by
  have hle : k ≤ last := by
    by_contra hlt
    have hfull' := hfull last (by omega)
    have hshort := hlast.short
    omega
  exact hbroken ⟨fun j hj => hreads j (by omega), fun j hj => hnamed j (by omega)⟩

end Search

/-- The receipt search is exhaustive. It ends after at most 100 pages, with a provider error or with
every order that has exactly the receipt and was there at the start, each once. The lookup by a key
finds nothing only if there was no such order, returns a payment only if exactly one was seen, and
refuses as ambiguous when it could read its pages and saw more than one, or only full pages, and no
such order has an empty id. -/
theorem receipt_search_is_exhaustive (http : Http) (remote : Remote) :
    (∀ receipt n, Serves http remote receipt n →
      ((ordersWithExactReceipt http receipt).run n).2 ≤ n + maxPages ∧
      ((∃ e, ((ordersWithExactReceipt http receipt).run n).1 = .error (.provider e)) ∨
        ∃ exact, ((ordersWithExactReceipt http receipt).run n).1 = .ok exact ∧ exact.Nodup ∧
          ∀ o ∈ remote.orders 0, HasReceipt receipt o → o ∈ exact)) ∧
    ∀ key receipt n, receipt = receiptForIdempotencyKey key → Serves http remote receipt n →
      (∀ m, (getPayment http none (some key)).run n = (.ok none, m) →
        ∀ o ∈ remote.orders 0, ¬HasReceipt receipt o) ∧
      (∀ payment m, (getPayment http none (some key)).run n = (.ok (some payment), m) →
        ∃ last, EndsAt remote receipt last ∧ ∃! o, Seen remote receipt last o) ∧
      (∀ last, EndsAt remote receipt last → Reads http receipt n (last + 1) →
        Named remote receipt (last + 1) →
        (∃ o o', o ≠ o' ∧ Seen remote receipt last o ∧ Seen remote receipt last o') →
        ∃ detail m, (getPayment http none (some key)).run n =
          (.error (providerError .ambiguity detail), m)) ∧
      ((∀ k < maxPages, (remote.page receipt k).length = pageSize) →
        Reads http receipt n maxPages → Named remote receipt maxPages →
        ∃ detail m, (getPayment http none (some key)).run n =
          (.error (providerError .ambiguity detail), m)) := by
  refine ⟨fun receipt n hserves => ?_, fun key receipt n hreceipt hserves => ?_⟩
  · have hends := searched hserves
    generalize (ordersWithExactReceipt http receipt).run n = out at hends ⊢
    cases hends with
    | found hlast hnodup _ hstart =>
      have hbounded := hlast.bounded
      exact ⟨by dsimp only; omega, .inr ⟨_, rfl, hnodup, hstart⟩⟩
    | exceeded detail _ => exact ⟨le_refl _, .inl ⟨_, rfl⟩⟩
    | failed hk _ _ => exact ⟨by dsimp only; omega, .inl ⟨_, rfl⟩⟩
  · subst hreceipt
    have hends := searched hserves
    have hlookup := run_getOrderByKey http n key
    generalize (ordersWithExactReceipt http (receiptForIdempotencyKey key)).run n = out
      at hends hlookup
    rw [hlookup]
    cases hends with
    | @found last exact hlast hnodup hseen hstart =>
      have hall : ¬∀ k < maxPages,
          (remote.page (receiptForIdempotencyKey key) k).length = pageSize := by
        intro hall
        have hfull := hall last hlast.bounded
        have hshort := hlast.short
        omega
      have hmany : ∀ last', EndsAt remote (receiptForIdempotencyKey key) last' →
          (∃ o o', o ≠ o' ∧ Seen remote (receiptForIdempotencyKey key) last' o ∧
            Seen remote (receiptForIdempotencyKey key) last' o') →
          ∃ o ∈ exact, ∃ o' ∈ exact, o ≠ o' := by
        rintro last' hlast' ⟨o, o', hne, ho, ho'⟩
        obtain rfl := hlast'.unique hlast
        exact ⟨o, (hseen o).mpr ho, o', (hseen o').mpr ho', hne⟩
      rcases exact with _ | ⟨order, _ | ⟨order', rest⟩⟩
      · refine ⟨fun m _ o ho hexact => ?_, fun payment m hrun => ?_, fun last' hlast' _ _ h => ?_,
          fun h => absurd h hall⟩
        · exact absurd (hstart o ho hexact) List.not_mem_nil
        · cases hrun
        · obtain ⟨o, ho, -⟩ := hmany last' hlast' h
          cases ho
      · refine ⟨fun m hrun => ?_, fun payment m _ => ⟨last, hlast, order, ?_, ?_⟩,
          fun last' hlast' _ _ h => ?_, fun h => absurd h hall⟩
        · obtain ⟨payment, m', -, hsettled⟩ := Tx.bind_ok.mp hrun
          exact absurd hsettled run_map_some_ne
        · exact (hseen order).mp (by simp)
        · intro o ho
          exact List.mem_singleton.mp ((hseen o).mpr ho)
        · obtain ⟨o, ho, o', ho', hne⟩ := hmany last' hlast' h
          exact absurd ((List.mem_singleton.mp ho).trans (List.mem_singleton.mp ho').symm) hne
      · refine ⟨fun m hrun => ?_, fun payment m hrun => ?_, fun _ _ _ _ _ => ⟨_, _, rfl⟩,
          fun h => absurd h hall⟩
        · cases hrun
        · cases hrun
    | exceeded detail hfull =>
      refine ⟨fun m hrun => ?_, fun payment m hrun => ?_, fun _ _ _ _ _ => ⟨detail, _, rfl⟩,
        fun _ _ _ => ⟨detail, _, rfl⟩⟩
      · cases hrun
      · cases hrun
    | failed hk hfull hbroken =>
      refine ⟨fun m hrun => ?_, fun payment m hrun => ?_, fun last hlast hreads hnamed _ =>
        (not_failed hlast hreads hnamed hfull hbroken).elim, fun _ hreads hnamed => absurd
          ⟨fun j hj => hreads j (by omega), fun j hj => hnamed j (by omega)⟩ hbroken⟩
      · cases hrun
      · cases hrun

namespace Sample

/-- As many letters as a number says. -/
def tag (i : Nat) : String := String.ofList (List.replicate i 'a')

lemma tag_injective : Function.Injective tag := by
  intro i j h
  have hlength := congrArg String.length h
  rwa [tag, tag, String.length_ofList, String.length_ofList, List.length_replicate,
    List.length_replicate] at hlength

/-- An order with an id and a receipt. -/
def entry (id receipt : String) : Members :=
  [("id", .str id), ("entity", .str "order"), ("status", .str "created"), ("amount", .int 5000),
   ("currency", .str "INR"), ("receipt", .str receipt), ("attempts", .int 0)]

lemma entry_unchanged (id receipt : String) :
    (Wire.Value.obj (entry id receipt)).pyEq (.obj (entry id receipt)) = true := by
  simp only [entry, Wire.Value.pyEq, Wire.pyEqMembers, Bool.and_eq_true]
  exact ⟨rfl, beq_self_eq_true id, rfl, rfl, beq_self_eq_true ((5000 : Int) : Rat), rfl,
    beq_self_eq_true receipt, beq_self_eq_true ((0 : Int) : Rat), trivial⟩

/-- An account whose orders are numbered, by the ids and the receipts of the numbers and the numbers
that each fetch lists. -/
def account (ids receipts : Nat → String) (hids : Function.Injective ids) (listed : Nat → List Nat)
    (hnodup : ∀ k, (listed k).Nodup) (hgrows : ∀ k, ∃ new, listed (k + 1) = new ++ listed k) :
    Remote where
  orders k := (listed k).map fun i => entry (ids i) (receipts i)
  passes _ _ := true
  ids k o ho := by
    obtain ⟨i, -, rfl⟩ := List.mem_map.mp ho
    exact ⟨ids i, rfl⟩
  distinct k := by
    rw [List.map_map]
    refine (hnodup k).map fun i j h => hids ?_
    exact Wire.Value.str.inj (Option.some.inj h)
  grows k := by
    obtain ⟨new, hnew⟩ := hgrows k
    exact ⟨new.map fun i => entry (ids i) (receipts i), by rw [hnew, List.map_append]⟩
  unchanged k o ho := by
    obtain ⟨i, -, rfl⟩ := List.mem_map.mp ho
    exact entry_unchanged (ids i) (receipts i)
  exact _ _ _ := rfl

/-- A client that lists the pages of an account. -/
def listing (remote : Remote) (receipt : String) : Http where
  acceptsPath _ := true
  send n _ := .response ⟨some 200,
    some (.obj [("items", .arr ((remote.page receipt n).map Wire.Value.obj))])⟩
  lower := id

lemma pageItems_listing (remote : Remote) (receipt : String) (k : Nat) :
    pageItems ⟨some 200, some (.obj [("items", .arr ((remote.page receipt k).map Wire.Value.obj))])⟩ =
      .ok ((remote.page receipt k).map Wire.Value.obj) := by
  have hlength : ((remote.page receipt k).map Wire.Value.obj).length ≤ pageSize := by
    rw [List.length_map]
    exact List.length_take_le _ _
  rw [pageItems, jsonObject]
  dsimp only [bind, Except.bind]
  change (if pageSize < ((remote.page receipt k).map Wire.Value.obj).length then _ else _) = _
  rw [if_neg (by omega)]

lemma serves (remote : Remote) (receipt : String) :
    Serves (listing remote receipt) remote receipt 0 := by
  refine ⟨rfl, fun k r items hsend hitems => ?_⟩
  obtain rfl := Sent.response.inj hsend
  rw [Nat.zero_add, pageItems_listing] at hitems
  exact (Except.ok.inj hitems).symm

lemma reads (remote : Remote) (receipt : String) (pages : Nat) :
    Reads (listing remote receipt) receipt 0 pages := by
  intro k _
  exact ⟨_, 200, _, rfl, rfl, by decide, pageItems_listing remote receipt (0 + k)⟩

/-- The orders of an account are found by their numbers. -/
lemma page_account {ids receipts : Nat → String} {hids : Function.Injective ids}
    {listed : Nat → List Nat} {hnodup : ∀ k, (listed k).Nodup}
    {hgrows : ∀ k, ∃ new, listed (k + 1) = new ++ listed k} (receipt : String) (k : Nat) :
    (account ids receipts hids listed hnodup hgrows).page receipt k =
      (((listed k).drop (k * pageSize)).take pageSize).map fun i => entry (ids i) (receipts i) := by
  have hmatching : (account ids receipts hids listed hnodup hgrows).matching receipt k =
      (listed k).map fun i => entry (ids i) (receipts i) := List.filter_true _
  rw [Remote.page, hmatching, List.map_take, List.map_drop]

/-- Ids as the provider gives them. -/
def orderId (i : Nat) : String := "order_" ++ tag i

lemma orderId_injective : Function.Injective orderId := by
  intro i j h
  refine tag_injective (String.toList_inj.mp ?_)
  have hlist := congrArg String.toList h
  rw [orderId, orderId, String.toList_append, String.toList_append] at hlist
  exact List.append_cancel_left hlist

lemma orderId_ne (i : Nat) : orderId i ≠ "" := by
  intro h
  have hlength := congrArg String.length h
  have hprefix : ("order_" : String).length = 6 := rfl
  have hempty : ("" : String).length = 0 := rfl
  rw [orderId, String.length_append, hprefix, hempty] at hlength
  omega

lemma named {receipts : Nat → String} {listed : Nat → List Nat} {hnodup : ∀ k, (listed k).Nodup}
    {hgrows : ∀ k, ∃ new, listed (k + 1) = new ++ listed k} (receipt : String) (pages : Nat) :
    Named (account orderId receipts orderId_injective listed hnodup hgrows) receipt pages := by
  intro k _ o ho _
  obtain ⟨i, -, rfl⟩ := List.mem_map.mp (Remote.mem_orders_of_mem_page ho)
  exact fun h => orderId_ne i (Wire.Value.str.inj (Option.some.inj h))

/-- The numbers of 101 orders, before which one more is listed from the second fetch on. -/
def growing : Nat → List Nat
  | 0 => List.range 101
  | _ + 1 => 101 :: List.range 101

lemma growing_nodup (k : Nat) : (growing k).Nodup := by
  cases k with
  | zero => exact List.nodup_range
  | succ k => exact List.nodup_cons.mpr ⟨by simp, List.nodup_range⟩

lemma growing_grows (k : Nat) : ∃ new, growing (k + 1) = new ++ growing k := by
  cases k with
  | zero => exact ⟨[101], rfl⟩
  | succ k => exact ⟨[], rfl⟩

/-- An account of which the two oldest orders have the receipt. -/
def crowded (receipt : String) : Remote :=
  account orderId (fun i => if i = 99 ∨ i = 100 then receipt else "other") orderId_injective growing
    growing_nodup growing_grows

/-- The first of the two is listed at the end of the first page and again on the second. -/
lemma crowded_second (receipt : String) : (crowded receipt).page receipt 1 =
    [entry (orderId 99) receipt, entry (orderId 100) receipt] := by
  rw [crowded, page_account]
  rfl

lemma crowded_ends (receipt : String) : EndsAt (crowded receipt) receipt 1 := by
  refine ⟨by decide, fun k hk => ?_, ?_⟩
  · obtain rfl : k = 0 := by omega
    rw [crowded, page_account, List.length_map]
    rfl
  · rw [crowded_second]
    show 2 < 100
    decide

lemma hasReceipt_entry (id receipt : String) : HasReceipt receipt (entry id receipt) :=
  beq_self_eq_true receipt

/-- An account with one order. -/
def single (receipt : String) : Remote :=
  account orderId (fun _ => receipt) orderId_injective (fun _ => [0])
    (fun _ => List.nodup_singleton 0) (fun _ => ⟨[], rfl⟩)

/-- An account with as many orders as a search may read. -/
def full : Remote :=
  account orderId (fun _ => "other") orderId_injective (fun _ => List.range (maxPages * pageSize))
    (fun _ => List.nodup_range) (fun _ => ⟨[], (List.nil_append _).symm⟩)

lemma full_pages {k : Nat} (receipt : String) (hk : k < maxPages) :
    (full.page receipt k).length = pageSize := by
  have hbound : k < 100 := hk
  rw [full, page_account, List.length_map, List.length_take, List.length_drop, List.length_range]
  simp only [maxPages, pageSize]
  omega

/-- Whether a lookup found nothing. -/
def absent (result : Except Exc (Option ProviderPayment)) : Option Bool :=
  match result with
  | .ok payment => some payment.isNone
  | .error _ => none

/-- The kind of provider error that a lookup raised. -/
def raisedKind (result : Except Exc (Option ProviderPayment)) : Option ProviderErrorKind :=
  match result with
  | .error (.provider e) => some e.kind
  | _ => none

lemma of_absent {result : Except Exc (Option ProviderPayment)} {b : Bool}
    (h : absent result = some b) : ∃ payment, result = .ok payment ∧ payment.isNone = b := by
  unfold absent at h
  split at h
  · exact ⟨_, rfl, Option.some.inj h⟩
  · cases h

/-- The key that is looked up. -/
def key : String := "k"

/-- The two orders with the receipt in a crowded account are found, each once, although one of them
is listed twice. -/
lemma crowded_found : ((ordersWithExactReceipt (listing (crowded "r") "r") "r").run 0).1.isOk = true := by
  decide +kernel

/-- The lookup of the key in an account with one order. -/
def lookupSingle (receipt : String) : Except Exc (Option ProviderPayment) × Nat :=
  (getPayment (listing (single receipt) (receiptForIdempotencyKey key)) none (some key)).run 0

lemma run_of_lookupSingle {receipt : String} {result : Except Exc (Option ProviderPayment)}
    (h : (lookupSingle receipt).1 = result) :
    (getPayment (listing (single receipt) (receiptForIdempotencyKey key)) none (some key)).run 0 =
      (result, (lookupSingle receipt).2) := by
  rw [← h]
  rfl

lemma single_absent : absent (lookupSingle "r").1 = some true := by
  decide +kernel

lemma single_present : absent (lookupSingle (receiptForIdempotencyKey key)).1 = some false := by
  decide +kernel

end Sample

/-- A crowded account, whose list grows while it is searched: the search returns both orders with
the receipt, one of which it reads on two pages, and the lookup refuses them as ambiguous, as it
refuses an account of full pages. An account with one order gives nothing for another key, and its
payment for its own. -/
theorem receipt_search_finds_the_orders :
    (∃ exact, ((ordersWithExactReceipt (Sample.listing (Sample.crowded "r") "r") "r").run 0).1 =
        .ok exact ∧ exact.Nodup ∧ Sample.entry (Sample.orderId 99) "r" ∈ exact ∧
      Sample.entry (Sample.orderId 100) "r" ∈ exact) ∧
    (∃ detail m, (getPayment (Sample.listing (Sample.crowded (receiptForIdempotencyKey Sample.key))
        (receiptForIdempotencyKey Sample.key)) none (some Sample.key)).run 0 =
      (.error (providerError .ambiguity detail), m)) ∧
    (∃ detail m, (getPayment (Sample.listing Sample.full (receiptForIdempotencyKey Sample.key)) none
        (some Sample.key)).run 0 = (.error (providerError .ambiguity detail), m)) ∧
    (∀ o ∈ (Sample.single "r").orders 0, ¬HasReceipt (receiptForIdempotencyKey Sample.key) o) ∧
    ∃ last, ∃! o, Seen (Sample.single (receiptForIdempotencyKey Sample.key))
      (receiptForIdempotencyKey Sample.key) last o := by
  refine ⟨?_, ?_, ?_, ?_, ?_⟩
  · have hok := Sample.crowded_found
    obtain ⟨-, ⟨e, he⟩ | ⟨exact, hexact, hnodup, hall⟩⟩ := (receipt_search_is_exhaustive _ _).1 "r" 0
      (Sample.serves (Sample.crowded "r") "r")
    · rw [he] at hok
      cases hok
    · refine ⟨exact, hexact, hnodup, hall _ ?_ (Sample.hasReceipt_entry _ "r"),
        hall _ ?_ (Sample.hasReceipt_entry _ "r")⟩
      · exact List.mem_map.mpr ⟨99, by decide, rfl⟩
      · exact List.mem_map.mpr ⟨100, by decide, rfl⟩
  · obtain ⟨-, -, hmany, -⟩ := (receipt_search_is_exhaustive _ _).2 Sample.key _ 0 rfl
      (Sample.serves (Sample.crowded (receiptForIdempotencyKey Sample.key))
        (receiptForIdempotencyKey Sample.key))
    refine hmany 1 (Sample.crowded_ends _) (Sample.reads _ _ 2) (Sample.named _ 2)
      ⟨Sample.entry (Sample.orderId 99) (receiptForIdempotencyKey Sample.key),
        Sample.entry (Sample.orderId 100) (receiptForIdempotencyKey Sample.key), fun h => ?_,
        ⟨Sample.hasReceipt_entry _ _, 1, le_refl 1, ?_⟩,
        ⟨Sample.hasReceipt_entry _ _, 1, le_refl 1, ?_⟩⟩
    · have hid : Sample.orderId 99 = Sample.orderId 100 :=
        Wire.Value.str.inj (Prod.mk.inj (List.cons.inj h).1).2
      exact absurd (Sample.orderId_injective hid) (by decide)
    · rw [Sample.crowded_second]
      exact List.mem_cons_self
    · rw [Sample.crowded_second]
      exact List.mem_cons_of_mem _ List.mem_cons_self
  · obtain ⟨-, -, -, hfull⟩ := (receipt_search_is_exhaustive _ _).2 Sample.key _ 0 rfl
      (Sample.serves Sample.full (receiptForIdempotencyKey Sample.key))
    exact hfull (fun k hk => Sample.full_pages _ hk) (Sample.reads _ _ maxPages)
      (Sample.named _ maxPages)
  · obtain ⟨payment, hrun, hnone⟩ := Sample.of_absent Sample.single_absent
    obtain rfl := Option.isNone_iff_eq_none.mp hnone
    obtain ⟨hnothing, -⟩ := (receipt_search_is_exhaustive _ _).2 Sample.key _ 0 rfl
      (Sample.serves (Sample.single "r") (receiptForIdempotencyKey Sample.key))
    exact hnothing _ (Sample.run_of_lookupSingle hrun)
  · obtain ⟨payment, hrun, hnone⟩ := Sample.of_absent Sample.single_present
    obtain ⟨-, hone, -⟩ := (receipt_search_is_exhaustive _ _).2 Sample.key _ 0 rfl
      (Sample.serves (Sample.single (receiptForIdempotencyKey Sample.key))
        (receiptForIdempotencyKey Sample.key))
    cases payment with
    | none => cases hnone
    | some payment =>
      obtain ⟨last, -, hunique⟩ := hone payment _ (Sample.run_of_lookupSingle hrun)
      exact ⟨last, hunique⟩

namespace Sample

/-- Ids of which the first is empty. -/
def emptyId : Nat → String
  | 0 => ""
  | i + 1 => orderId i

lemma emptyId_injective : Function.Injective emptyId := by
  intro i j h
  cases i with
  | zero =>
    cases j with
    | zero => rfl
    | succ j => exact absurd h.symm (orderId_ne j)
  | succ i =>
    cases j with
    | zero => exact absurd h (orderId_ne i)
    | succ j => rw [orderId_injective h]

/-- An account with two orders that have the receipt, one of them under an empty id. -/
def nameless (receipt : String) : Remote :=
  account emptyId (fun _ => receipt) emptyId_injective (fun _ => [0, 1]) (fun _ => by decide)
    (fun _ => ⟨[], rfl⟩)

lemma nameless_page (receipt : String) : (nameless receipt).page receipt 0 =
    [entry "" receipt, entry (orderId 0) receipt] := by
  rw [nameless, page_account]
  rfl

lemma nameless_refused : raisedKind ((getPayment (listing (nameless (receiptForIdempotencyKey key))
    (receiptForIdempotencyKey key)) none (some key)).run 0).1 = some .transient := by
  decide +kernel

end Sample

/-- Two orders with the receipt are seen on the one page, and the lookup raises a transient error,
because one of them has an empty id. -/
theorem nameless_order_is_not_ambiguous :
    Serves (Sample.listing (Sample.nameless (receiptForIdempotencyKey Sample.key))
        (receiptForIdempotencyKey Sample.key))
      (Sample.nameless (receiptForIdempotencyKey Sample.key)) (receiptForIdempotencyKey Sample.key) 0 ∧
    Reads (Sample.listing (Sample.nameless (receiptForIdempotencyKey Sample.key))
        (receiptForIdempotencyKey Sample.key)) (receiptForIdempotencyKey Sample.key) 0 1 ∧
    EndsAt (Sample.nameless (receiptForIdempotencyKey Sample.key))
      (receiptForIdempotencyKey Sample.key) 0 ∧
    (∃ o o', o ≠ o' ∧
      Seen (Sample.nameless (receiptForIdempotencyKey Sample.key))
        (receiptForIdempotencyKey Sample.key) 0 o ∧
      Seen (Sample.nameless (receiptForIdempotencyKey Sample.key))
        (receiptForIdempotencyKey Sample.key) 0 o') ∧
    Sample.raisedKind ((getPayment (Sample.listing
        (Sample.nameless (receiptForIdempotencyKey Sample.key))
        (receiptForIdempotencyKey Sample.key)) none (some Sample.key)).run 0).1 = some .transient := by
  refine ⟨Sample.serves _ _, Sample.reads _ _ 1, ⟨by decide, fun k hk => absurd hk (Nat.not_lt_zero k),
    ?_⟩, ⟨Sample.entry "" _, Sample.entry (Sample.orderId 0) _, fun h => ?_,
      ⟨Sample.hasReceipt_entry _ _, 0, le_refl 0, ?_⟩, ⟨Sample.hasReceipt_entry _ _, 0, le_refl 0, ?_⟩⟩,
    Sample.nameless_refused⟩
  · rw [Sample.nameless_page]
    show 2 < 100
    decide
  · exact Sample.orderId_ne 0 (Wire.Value.str.inj (Prod.mk.inj (List.cons.inj h).1).2).symm
  · rw [Sample.nameless_page]
    exact List.mem_cons_self
  · rw [Sample.nameless_page]
    exact List.mem_cons_of_mem _ List.mem_cons_self

end Razorpay

end Pactra
