import StorageGateway.Proofs.Browser.Visit
import StorageGateway.Proofs.Service.Chain

/-!
# The tokens of a browser

The gateway keeps no sessions: the tokens of all storages live in the cookies of the browser. A
ledger is the map from storages to tokens that these cookies amount to. Every visit changes at most
the entry of the storage that it is about, and the new entry is told by the action, by the old
entry, and by the last reply to the call. That the cookies say the same as the ledger is an
invariant of every sequence of visits that starts without cookies.

## Main definitions

* `Gateway.finalReply?`: the last reply to the call of a request.
* `Ledger`, `Ledger.entryAfter`, `Ledger.step`, `Ledger.run`.
* `Browser.Store.Holds`: the cookies say the same as a ledger.

## Main results

* `Browser.Store.Holds.visit`: one visit.
* `Browser.token?_run`: every sequence of visits.
-/

namespace StorageGateway

open Cookie

/-! ### Ledgers -/

/-- The last reply to the call of a plan, which carries the given token. -/
def Plan.finalReply? (b : Backend) (service : Service) (token : Option String) : Plan → Option Reply
  | .answer .. => none
  | .ask _ call _ =>
    match b.exchange? service token call with
    | .ok e => e.reply
    | .error _ => none

/-- The last reply to the call of a request, which carries the given token. -/
def Gateway.finalReply? (g : Gateway) (service : Service) (token : Option String) (req : Inbound) :
    Option Reply :=
  (g.plan? req).bind (Plan.finalReply? g.backend service token)

/-- The tokens of storages. -/
abbrev Ledger := String → Option String

namespace Ledger

/-- The token that a text is; the empty text is none. -/
def ofText (text : String) : Option String := if text = "" then none else some text

/-- The entry of a storage after the last reply to a call. A reply of status 200 to a login or a
registration leaves the text of its body, if the body arrives to its end. Any other reply of this
status leaves the token that its header fields bring along, if they do. Otherwise the entry
stays. -/
def afterReply (action : Action) (entry : Option String) (r : Reply) : Option String :=
  if r.status ≠ 200 then entry
  else if action.asksToken ∧ r.isWhole then ofText (Utf8.toStringLossy r.body)
  else (Exchange.freshToken? r).or entry

/-- The entry of a storage after a visit, of which logout leaves none. -/
def entryAfter (action : Action) (final : Option Reply) (entry : Option String) : Option String :=
  if action = .within .logout then none else final.elim entry (afterReply action entry)

/-- The ledger after a visit. Nothing is kept for the storage without a name. -/
def step (g : Gateway) (m : Ledger) (s : Browser.Step) : Ledger :=
  match Gateway.subject? s.request with
  | none => m
  | some (action, storage) =>
    if storage = "" then m
    else
      Function.update m storage
        (entryAfter action (g.finalReply? s.service (m storage) s.request) (m storage))

/-- The ledger after a sequence of visits. -/
def run (g : Gateway) (m : Ledger) (steps : List Browser.Step) : Ledger := steps.foldl (step g) m

/-- The ledger of a browser without cookies. -/
def empty : Ledger := fun _ => none

end Ledger

/-! ### Marks and entries -/

/-- The token after a mark on its cookie. -/
def Ledger.marked (entry : Option String) : Option Change → Option String
  | none => entry
  | some c => c.value?

theorem Exchange.freshToken?_ne_empty {r : Reply} {token : String}
    (h : Exchange.freshToken? r = some token) : token ≠ "" := by
  have := (Option.filter_eq_some_iff.mp h).2
  simpa using this

/-- The token of a reply's header fields replaces the entry, if there is one. -/
theorem Ledger.marked_fresh (entry : Option String) (r : Reply) :
    Ledger.marked entry ((Exchange.freshToken? r).map .store) =
      (Exchange.freshToken? r).or entry := by
  cases h : Exchange.freshToken? r with
  | none => rfl
  | some token => simp [Ledger.marked, Change.value?, Exchange.freshToken?_ne_empty h]

/-- The mark of a call's result, in terms of the last reply. -/
theorem Sequel.Suits.marked {storage : String} {action : Action} {sequel : Sequel}
    (h : sequel.Suits storage action) (hlogout : action ≠ .within .logout) (entry : Option String)
    (final : Option Reply) :
    Ledger.marked entry (sequel.mark (Exchange.settle final)) =
      Ledger.entryAfter action final entry := by
  rw [Ledger.entryAfter, if_neg hlogout]
  cases hsettle : Exchange.settle final with
  | error f =>
    rw [Sequel.mark_error]
    cases final with
    | none => rfl
    | some r =>
      have hstatus : r.status ≠ 200 := fun hr => by
        rw [Exchange.settle_eq_ok_iff.mpr ⟨rfl, hr⟩] at hsettle
        cases hsettle
      rw [Option.elim_some, Ledger.afterReply, if_pos hstatus, Ledger.marked]
  | ok r =>
    obtain ⟨rfl, hstatus⟩ := Exchange.settle_eq_ok_iff.mp hsettle
    rw [Option.elim_some, Ledger.afterReply, if_neg (not_not.mpr hstatus)]
    cases h with
    | present htoken =>
      simp only [htoken, Bool.false_eq_true, false_and, if_false, Sequel.mark]
      exact Ledger.marked_fresh entry r
    | enter htoken =>
      by_cases hwhole : r.isWhole
      · simp only [htoken, hwhole, and_self, if_true, Sequel.mark]
        rfl
      · simp only [htoken, hwhole, and_false, Bool.false_eq_true, if_false, Sequel.mark]
        exact Ledger.marked_fresh entry r

/-- The mark of an errand, in terms of the last reply to its call. -/
theorem Errand.Suits.marked {storage : String} {action : Action} {e : Errand}
    (h : e.Suits storage action) (b : Backend) (service : Service) {token : Option String}
    {held : Bool} (hheld : held = false → token = none) :
    Ledger.marked token (e.settle b service storage token held).mark =
      Ledger.entryAfter action ((e.plan storage).finalReply? b service token) token := by
  cases h with
  | answer hlogout =>
    rw [Ledger.entryAfter, if_neg hlogout]
    rfl
  | forget hlogout =>
    rw [Ledger.entryAfter, if_pos hlogout, Errand.settle]
    cases held with
    | true => rfl
    | false => exact hheld rfl
  | @ask call sequel hlogout _ hsuits =>
    rw [Errand.settle, Errand.plan, Plan.finalReply?]
    cases b.exchange? service token call with
    | ok exchange => exact hsuits.marked hlogout token exchange.reply
    | error f =>
      rw [Ledger.entryAfter, if_neg hlogout]
      simp only [Sequel.mark_error]
      rfl

/-! ### The invariant -/

namespace Browser

/-- The cookies of a store say the same as a ledger: all of them were written by the gateway, and
the cookie of each storage holds its token. -/
structure Store.Holds (store : Store) (m : Ledger) : Prop where
  isMap : Table.IsMap store
  written : ∀ p ∈ store, ∃ name value, name ≠ "" ∧ p = (encoded name, encoded value)
  token : ∀ storage, storage ≠ "" →
    Table.get? store (encoded (Session.cookieName storage)) = (m storage).map encoded
  noEmpty : ∀ storage, m storage ≠ some ""
  noName : m "" = none

theorem Store.holds_nil : Store.Holds [] Ledger.empty where
  isMap := Table.isMap_nil
  written := by simp
  token _ _ := rfl
  noEmpty _ := by simp [Ledger.empty]
  noName := rfl

/-! ### Reading -/

/-- A list of cookies that the gateway wrote is the encoded form of a list of pairs. -/
theorem exists_written {entries : List (String × String)}
    (h : ∀ p ∈ entries, ∃ name value, name ≠ "" ∧ p = (encoded name, encoded value)) :
    ∃ plain : List (String × String), (∀ p ∈ plain, p.1 ≠ "") ∧
      entries = plain.map fun p => (encoded p.1, encoded p.2) := by
  induction entries with
  | nil => exact ⟨[], by simp, rfl⟩
  | cons p entries ih =>
    obtain ⟨plain, hplain, rfl⟩ := ih fun q hq => h q (List.mem_cons_of_mem p hq)
    obtain ⟨name, value, hname, rfl⟩ := h p List.mem_cons_self
    exact ⟨(name, value) :: plain, List.forall_mem_cons.mpr ⟨hname, hplain⟩, rfl⟩

/-- The cookies that the gateway wrote are read back. -/
theorem Store.get?_ofPairs_pairs {store : Store} (hmap : Table.IsMap store)
    (h : ∀ p ∈ store, ∃ name value, name ≠ "" ∧ p = (encoded name, encoded value))
    (name value : String) :
    Table.get? (Table.ofPairs store.pairs) name = some value ↔
      Table.get? store (encoded name) = some (encoded value) := by
  obtain ⟨plain, hplain, hsorted⟩ :=
    exists_written fun p hp => h p ((Store.perm_sorted store).subset hp)
  have hpairs : store.pairs = plain := by
    have hvisible : store.all (fun p => isVisible (entryBytes p)) = true := by
      rw [List.all_eq_true]
      intro p hp
      obtain ⟨n, v, -, rfl⟩ := h p hp
      rw [isVisible_entryBytes_encoded, isVisible_encoded]
    have hsplit : plain.flatMap (fun p => splitPairs (entryBytes (encoded p.1, encoded p.2))) =
        plain.flatMap fun p => [p] := by
      rw [List.flatMap_def, List.flatMap_def,
        List.map_congr_left fun p hp => splitPairs_encoded (hplain p hp) p.2]
    rw [Store.pairs, if_pos hvisible, hsorted, List.flatMap_map, hsplit, List.flatMap_singleton']
  have hplainMap : Table.IsMap plain := by
    have hsortedMap : (store.sorted.map Prod.fst).Nodup :=
      ((Store.perm_sorted store).map Prod.fst).nodup_iff.mpr hmap
    rw [hsorted, List.map_map] at hsortedMap
    rw [Table.IsMap]
    exact List.Nodup.of_map encoded (by rwa [List.map_map])
  have hreverse : Table.IsMap plain.reverse := by
    rw [Table.IsMap, List.map_reverse, List.nodup_reverse]
    exact hplainMap
  have hmem : (encoded name, encoded value) ∈ store ↔ (name, value) ∈ plain := by
    rw [← (Store.perm_sorted store).mem_iff, hsorted, List.mem_map]
    constructor
    · rintro ⟨p, hp, heq⟩
      rw [Prod.mk.injEq] at heq
      have hp' : p = (name, value) :=
        Prod.ext (encoded_injective heq.1) (encoded_injective heq.2)
      exact hp' ▸ hp
    · exact fun hp => ⟨_, hp, rfl⟩
  rw [hpairs, Table.get?_ofPairs, ← Table.mem_iff_get? hreverse, List.mem_reverse,
    ← Table.mem_iff_get? hmap, hmem]

/-- The gateway finds the tokens of the ledger. -/
theorem Store.Holds.token?_jar {store : Store} {m : Ledger} (h : store.Holds m) (storage : String) :
    Session.token? store.jar storage = m storage := by
  rw [Session.token?]
  by_cases hname : storage = ""
  · rw [hname, h.noName]
    rfl
  · rw [Session.cookieName?_of_ne hname, Option.bind_some]
    change ((Table.get? (Table.ofPairs store.pairs) (Session.cookieName storage)).filter
      fun token => !token.isEmpty) = m storage
    have hvalue : Table.get? (Table.ofPairs store.pairs) (Session.cookieName storage) =
        m storage := by
      ext value
      rw [store.get?_ofPairs_pairs h.isMap h.written, h.token storage hname,
        Option.map_eq_some_iff]
      simp only [encoded_injective.eq_iff, exists_eq_right]
    rw [hvalue]
    cases htoken : m storage with
    | none => rfl
    | some token =>
      have hne : token ≠ "" := fun hempty => h.noEmpty storage (hempty ▸ htoken)
      simp [Option.filter_some, hne]

theorem Store.Holds.token_of_not_held {store : Store} {m : Ledger} (h : store.Holds m)
    {storage : String} (hheld : Session.isHeld store.jar storage = false) : m storage = none := by
  rw [← h.token?_jar, Session.token?]
  rw [Session.isHeld, Option.isSome_eq_false_iff, Option.isNone_iff_eq_none] at hheld
  change ((Session.cookieName? storage).bind (Table.get? store.jar.carried)).filter _ = none
  rw [hheld, Option.filter_none]

/-! ### Visits -/

/-- A mark on the cookie of a storage changes its entry and no other. -/
theorem Store.Holds.settle {store : Store} {m : Ledger} (h : store.Holds m) {storage : String}
    (hname : storage ≠ "") (mark : Option Change) :
    (store.settle storage mark).Holds
      (Function.update m storage (Ledger.marked (m storage) mark)) := by
  cases mark with
  | none => rwa [Store.settle_none, Ledger.marked, Function.update_eq_self]
  | some c =>
    rw [store.settle_some hname, Ledger.marked]
    refine ⟨Store.isMap_change h.isMap _ _, fun p hp => ?_, fun other hother => ?_,
      fun other => ?_, ?_⟩
    · rcases Store.mem_change hp with ⟨hmem, -⟩ | ⟨value, rfl⟩
      · exact h.written p hmem
      · exact ⟨_, value, Session.cookieName_ne_empty storage, rfl⟩
    · simp only [Store.get?_change, encoded_injective.eq_iff, Session.cookieName_injective.eq_iff]
      by_cases hsame : other = storage
      · rw [if_pos hsame, hsame, Function.update_self]
      · rw [if_neg hsame, Function.update_of_ne hsame, h.token other hother]
    · by_cases hsame : other = storage
      · rw [hsame, Function.update_self]
        exact c.value?_ne_empty
      · rw [Function.update_of_ne hsame]
        exact h.noEmpty other
    · rw [Function.update_of_ne (Ne.symm hname), h.noName]

/-- One visit keeps the cookies and the ledger together. -/
theorem Store.Holds.visit {store : Store} {m : Ledger} (h : store.Holds m) (g : Gateway)
    (s : Step) : (Browser.visit g store s).Holds (m.step g s) := by
  rw [Ledger.step]
  split
  · next hsubject => rwa [visit_no_subject g store hsubject]
  · next action storage hsubject =>
    obtain ⟨e, hsuits, hplan, hvisit⟩ := exists_errand g hsubject
    rw [(hvisit s.service store).2]
    by_cases hname : storage = ""
    · rw [if_pos hname, hname, Store.settle_empty]
      exact h
    · rw [if_neg hname, Gateway.finalReply?, hplan, Option.bind_some, h.token?_jar,
        ← hsuits.marked _ _ h.token_of_not_held]
      exact h.settle hname _

/-- Every sequence of visits keeps the cookies and the ledger together. -/
theorem Store.Holds.run {store : Store} {m : Ledger} (h : store.Holds m) (g : Gateway)
    (steps : List Step) : (Browser.run g store steps).Holds (m.run g steps) := by
  induction steps generalizing store m with
  | nil => exact h
  | cons s steps ih => exact ih (h.visit g s)

/-- After any sequence of visits that starts without cookies, a request of the browser carries for
each storage the token of the ledger. -/
theorem token?_run (g : Gateway) (steps : List Step) (req : Inbound) (storage : String) :
    Session.token? (Store.request (run g [] steps) req).jar storage =
      Ledger.run g Ledger.empty steps storage := by
  rw [Store.jar_request]
  exact (Store.holds_nil.run g steps).token?_jar storage

end Browser

end StorageGateway
