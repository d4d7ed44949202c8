import StorageGateway.Proofs.Cookie.Line
import StorageGateway.Proofs.Session.Ledger

/-!
# Operations on the tokens of a request

While a request is served, tokens are looked up, stored and forgotten. Whatever is done and in
whichever order, the jar answers as a map from storages to tokens would that starts with the
tokens of the request. In the end there is one `set-cookie` line for each storage whose last change
stored a token, and one for each storage whose last change forgot a token that the request carried.

## Main definitions

* `Session.Op`, `Session.run`: operations and sequences of them.
* `Ledger.ofHeaders`, `Ledger.after`: the map that answers alike.
* `Session.lastChange?`: the last change of a storage in a sequence of operations.
* `Session.Records`: the changes that a jar holds after a sequence of operations.

## Main results

* `Session.token?_apply`, `Session.token?_run_eq_after`: one operation and a sequence of them.
* `Session.Records.run`: the changes after a sequence of operations.
* `Session.jar_refines_ledger`: both, with the lines in the end.
-/

namespace StorageGateway

open Cookie

/-! ### Jars -/

namespace Cookie.Jar

variable (jar : Jar) (name : String)

theorem value?_store (value other : String) :
    (jar.store name value).value? other =
      if other = name then some value else jar.value? other := by
  rw [value?, store, Table.get?_put]
  by_cases h : other = name
  · rw [if_pos h, if_pos h]
  · rw [if_neg h, if_neg h, value?]

theorem value?_remove (other : String) :
    (jar.remove name).value? other = if other = name then none else jar.value? other := by
  rw [remove]
  split
  · rw [value?, Table.get?_put]
    by_cases h : other = name
    · rw [if_pos h, if_pos h]
    · rw [if_neg h, if_neg h, value?]
  · next hcarried =>
    rw [Bool.not_eq_true, Option.isSome_eq_false_iff, Option.isNone_iff_eq_none] at hcarried
    rw [value?, Table.get?_drop]
    by_cases h : other = name
    · rw [if_pos h, if_pos h, h, hcarried]
    · rw [if_neg h, if_neg h, value?]

end Cookie.Jar

/-! ### Operations -/

namespace Session

/-- What is done with the token of a storage. -/
inductive Op where
  | get (storage : String)
  | store (storage token : String)
  | clear (storage : String)
  deriving DecidableEq, Repr

namespace Op

/-- The storage that an operation is about. -/
def storage : Op → String
  | get storage | store storage _ | clear storage => storage

/-- The jar after an operation. -/
def apply (jar : Jar) : Op → Jar
  | get _ => jar
  | store storage token => Session.store jar storage token
  | clear storage => Session.clear jar storage

/-- The change that an operation asks for. -/
def change? : Op → Option Change
  | get _ => none
  | store _ token => some (.store token)
  | clear _ => some .expire

end Op

/-- The jar after a sequence of operations. -/
def run (jar : Jar) (ops : List Op) : Jar := ops.foldl Op.apply jar

/-- The last change of a storage that a sequence of operations asks for. -/
def lastChange? (storage : String) (ops : List Op) : Option Change :=
  (ops.reverse.filter (·.storage = storage)).findSome? Op.change?

theorem run_concat (jar : Jar) (ops : List Op) (op : Op) :
    run jar (ops ++ [op]) = op.apply (run jar ops) := by
  rw [run, List.foldl_concat, run]

theorem lastChange?_concat (storage : String) (ops : List Op) (op : Op) :
    lastChange? storage (ops ++ [op]) =
      if op.storage = storage then op.change?.or (lastChange? storage ops)
      else lastChange? storage ops := by
  rw [lastChange?, List.reverse_concat, List.filter_cons]
  by_cases h : op.storage = storage
  · rw [if_pos (decide_eq_true h), if_pos h, List.findSome?_cons, lastChange?]
    cases op.change? <;> rfl
  · rw [if_neg (by rw [decide_eq_true_eq]; exact h), if_neg h, lastChange?]

end Session

/-! ### The map -/

namespace Ledger

/-- The tokens that a request carries: for each storage the last value of its cookie. -/
def ofHeaders (hs : Headers) : Ledger := fun storage =>
  if storage = "" then none
  else (((pairs hs).filter (·.1 = Session.cookieName storage)).getLast?.map (·.2)).bind ofText

/-- The ledger with the entry of one storage set. Nothing is kept for the storage without a
name. -/
def set (m : Ledger) (storage : String) (entry : Option String) : Ledger :=
  if storage = "" then m else Function.update m storage entry

/-- The ledger after an operation. -/
def apply (m : Ledger) : Session.Op → Ledger
  | .get _ => m
  | .store storage token => m.set storage (ofText token)
  | .clear storage => m.set storage none

/-- The ledger after a sequence of operations. -/
def after (m : Ledger) (ops : List Session.Op) : Ledger := ops.foldl apply m

theorem set_apply (m : Ledger) {storage : String} (h : storage ≠ "") (entry : Option String)
    (other : String) : m.set storage entry other = if other = storage then entry else m other := by
  rw [set, if_neg h, Function.update_apply]

theorem filter_eq_bind_ofText (value : Option String) :
    value.filter (fun token => !token.isEmpty) = value.bind ofText := by
  cases value with
  | none => rfl
  | some token => by_cases h : token = "" <;> simp [Option.filter_some, ofText, h]

end Ledger

namespace Session

/-- The token of a storage that has a name. -/
theorem token?_of_ne (jar : Jar) {storage : String} (h : storage ≠ "") :
    token? jar storage = (jar.value? (cookieName storage)).bind Ledger.ofText := by
  rw [token?, cookieName?_of_ne h, Option.bind_some, Ledger.filter_eq_bind_ofText]

@[simp] theorem token?_empty (jar : Jar) : token? jar "" = none := rfl

/-- A request is asked for the tokens that it carries. -/
theorem token?_ofHeaders (hs : Headers) (storage : String) :
    token? (Jar.ofHeaders hs) storage = Ledger.ofHeaders hs storage := by
  rw [Ledger.ofHeaders]
  by_cases h : storage = ""
  · rw [if_pos h, h, token?_empty]
  · rw [if_neg h, token?_of_ne _ h]
    change (Table.get? (Table.ofPairs (pairs hs)) _).bind _ = _
    rw [Table.get?_ofPairs, Table.get?, List.getLast?_filter]
    rfl

/-! ### Answers -/

/-- The cookie of a storage that has a name is stored or removed. -/
theorem store_of_ne (jar : Jar) {storage : String} (h : storage ≠ "") (token : String) :
    store jar storage token = jar.store (cookieName storage) token := by
  rw [store, cookieName?_of_ne h]

theorem clear_of_ne (jar : Jar) {storage : String} (h : storage ≠ "") :
    clear jar storage = jar.remove (cookieName storage) := by
  rw [clear, cookieName?_of_ne h]

/-- Nothing is done about the storage without a name. -/
theorem Op.apply_of_empty {op : Op} (h : op.storage = "") (jar : Jar) : op.apply jar = jar := by
  cases op with
  | get storage => rfl
  | store storage token =>
    rw [apply, show storage = "" from h]
    rfl
  | clear storage =>
    rw [apply, show storage = "" from h]
    rfl

/-- An operation changes no cookie but that of its storage. -/
theorem Op.value?_apply (op : Op) (jar : Jar) {name : String}
    (h : cookieName? op.storage ≠ some name) : (op.apply jar).value? name = jar.value? name := by
  by_cases hempty : op.storage = ""
  · rw [op.apply_of_empty hempty]
  · rw [cookieName?_of_ne hempty, ne_eq, Option.some_inj, eq_comm] at h
    cases op with
    | get storage => rfl
    | store storage token =>
      have hname : storage ≠ "" := hempty
      rw [apply, store_of_ne _ hname, Jar.value?_store]
      exact if_neg h
    | clear storage =>
      have hname : storage ≠ "" := hempty
      rw [apply, clear_of_ne _ hname, Jar.value?_remove]
      exact if_neg h

/-- One operation keeps a jar and a ledger together. -/
theorem token?_apply {jar : Jar} {m : Ledger} (h : ∀ storage, token? jar storage = m storage)
    (op : Op) (storage : String) : token? (op.apply jar) storage = m.apply op storage := by
  by_cases hempty : op.storage = ""
  · have hsame : m.apply op = m := by
      cases op with
      | get _ => rfl
      | store _ _ => exact if_pos hempty
      | clear _ => exact if_pos hempty
    rw [op.apply_of_empty hempty, hsame, h]
  · have hother (hne : storage ≠ op.storage) : token? (op.apply jar) storage = m storage := by
      rw [← h]
      by_cases hname : storage = ""
      · rw [hname, token?_empty, token?_empty]
      · rw [token?_of_ne _ hname, token?_of_ne _ hname, op.value?_apply]
        rw [cookieName?_of_ne hempty, ne_eq, Option.some_inj, cookieName_injective.eq_iff]
        exact hne.symm
    cases op with
    | get _ => exact h storage
    | store named token =>
      have hnamed : named ≠ "" := hempty
      rw [Ledger.apply, Ledger.set_apply _ hnamed]
      by_cases hsame : storage = named
      · rw [if_pos hsame, hsame, Op.apply, store_of_ne _ hnamed, token?_of_ne _ hnamed,
          Jar.value?_store, if_pos rfl, Option.bind_some]
      · rw [if_neg hsame, hother hsame]
    | clear named =>
      have hnamed : named ≠ "" := hempty
      rw [Ledger.apply, Ledger.set_apply _ hnamed]
      by_cases hsame : storage = named
      · rw [if_pos hsame, hsame, Op.apply, clear_of_ne _ hnamed, token?_of_ne _ hnamed,
          Jar.value?_remove, if_pos rfl, Option.bind_none]
      · rw [if_neg hsame, hother hsame]

/-- Every sequence of operations keeps a jar and a ledger together. -/
theorem token?_run_eq_after {jar : Jar} {m : Ledger} (h : ∀ storage, token? jar storage = m storage)
    (ops : List Op) (storage : String) : token? (run jar ops) storage = m.after ops storage := by
  induction ops generalizing jar m with
  | nil => exact h storage
  | cons op ops ih => exact ih (token?_apply h op)

/-! ### Changes -/

/-- The changes that a jar holds after a sequence of operations: one for each storage at most, and
that is the last one asked for, unless it is to forget a token that was not carried. -/
structure Records (carried : Table String) (ops : List Op) (jar : Jar) : Prop where
  kept : jar.carried = carried
  isMap : Table.IsMap jar.changes
  named : ∀ p ∈ jar.changes, ∃ storage, storage ≠ "" ∧ p.1 = cookieName storage
  last : ∀ storage, storage ≠ "" → Table.get? jar.changes (cookieName storage) =
    (lastChange? storage ops).filter fun c =>
      c ≠ .expire ∨ (Table.get? carried (cookieName storage)).isSome

theorem records_nil (carried : Table String) : Records carried [] { carried } where
  kept := rfl
  isMap := Table.isMap_nil
  named := by simp
  last _ _ := rfl

variable {carried : Table String} {ops : List Op} {jar : Jar}

/-- A change of one storage is recorded when the other entries stay and its own is the change. -/
theorem Records.change (h : Records carried ops jar) {op : Op} (hname : op.storage ≠ "")
    {c : Change} (hop : op.change? = some c) {entry : Option Change}
    (hentry : (some c).filter (fun c => c ≠ .expire ∨
      (Table.get? carried (cookieName op.storage)).isSome) = entry)
    {changes : Table Change} (hmap : Table.IsMap changes)
    (hnamed : ∀ p ∈ changes, p ∈ jar.changes ∨ p.1 = cookieName op.storage)
    (hget : ∀ name, Table.get? changes name =
      if name = cookieName op.storage then entry else Table.get? jar.changes name) :
    Records carried (ops ++ [op]) { jar with changes } where
  kept := h.kept
  isMap := hmap
  named p hp := (hnamed p hp).elim (h.named p) fun heq => ⟨op.storage, hname, heq⟩
  last storage hstorage := by
    rw [hget, lastChange?_concat]
    by_cases hsame : op.storage = storage
    · rw [if_pos (congrArg cookieName hsame.symm), if_pos hsame, hop, Option.some_or, ← hentry,
        hsame]
    · rw [if_neg (cookieName_injective.ne (Ne.symm hsame)), if_neg hsame, h.last storage hstorage]

/-- One operation is recorded. -/
theorem Records.apply (h : Records carried ops jar) (op : Op) :
    Records carried (ops ++ [op]) (op.apply jar) := by
  obtain rfl := h.kept
  have hkeep (hsame : ∀ storage, storage ≠ "" →
      lastChange? storage (ops ++ [op]) = lastChange? storage ops) :
      Records jar.carried (ops ++ [op]) jar :=
    ⟨rfl, h.isMap, h.named, fun storage hstorage => by
      rw [hsame storage hstorage, h.last storage hstorage]⟩
  by_cases hempty : op.storage = ""
  · rw [op.apply_of_empty hempty]
    refine hkeep fun storage hstorage => ?_
    rw [lastChange?_concat, if_neg fun hsame => hstorage (hsame.symm.trans hempty)]
  · cases op with
    | get storage =>
      refine hkeep fun other _ => ?_
      rw [lastChange?_concat, Op.change?, Option.none_or, ite_self]
    | store storage token =>
      have hname : storage ≠ "" := hempty
      rw [Op.apply, store_of_ne _ hname]
      refine h.change hempty rfl (Option.filter_some_pos rfl) (h.isMap.put _ _) (fun p hp => ?_)
        (Table.get?_put _ _ _)
      exact (Table.mem_put.mp hp).imp And.left (congrArg Prod.fst)
    | clear storage =>
      have hname : storage ≠ "" := hempty
      rw [Op.apply, clear_of_ne _ hname, Jar.remove]
      split
      · next hheld =>
        refine h.change hempty rfl (Option.filter_some_pos (decide_eq_true (.inr hheld)))
          (h.isMap.put _ _) (fun p hp => ?_) (Table.get?_put _ _ _)
        exact (Table.mem_put.mp hp).imp And.left (congrArg Prod.fst)
      · next hheld =>
        have hnone : ¬(Change.expire ≠ .expire ∨
            (Table.get? jar.carried (cookieName storage)).isSome) := by simpa using hheld
        refine h.change hempty rfl (Option.filter_some_neg (decide_eq_false hnone))
          (h.isMap.drop _) (fun p hp => .inl (Table.mem_drop.mp hp).1) (Table.get?_drop _ _)

/-- Every sequence of operations is recorded. -/
theorem Records.run (carried : Table String) (ops : List Op) :
    Records carried ops (run { carried } ops) := by
  induction ops using List.reverseRecOn with
  | nil => exact records_nil carried
  | append_singleton ops op ih =>
    rw [run_concat]
    exact ih.apply op

/-! ### Lines -/

/-- The changes of a jar, by storage. -/
theorem Records.exists_changes (h : Records carried ops jar) :
    ∃ changes : List (String × Change), (changes.map Prod.fst).Nodup ∧
      (∀ w ∈ changes, w.1 ≠ "") ∧ jar.changes = changes.map fun w => (cookieName w.1, w.2) := by
  have hlist (entries : Table Change)
      (hentries : ∀ p ∈ entries, ∃ storage, storage ≠ "" ∧ p.1 = cookieName storage) :
      ∃ changes : List (String × Change), (∀ w ∈ changes, w.1 ≠ "") ∧
        entries = changes.map fun w => (cookieName w.1, w.2) := by
    induction entries with
    | nil => exact ⟨[], by simp, rfl⟩
    | cons p entries ih =>
      obtain ⟨changes, hne, rfl⟩ := ih fun q hq => hentries q (List.mem_cons_of_mem p hq)
      obtain ⟨storage, hstorage, hp⟩ := hentries p List.mem_cons_self
      exact ⟨(storage, p.2) :: changes, List.forall_mem_cons.mpr ⟨hstorage, hne⟩,
        congrArg (· :: _) (Prod.ext hp rfl)⟩
  obtain ⟨changes, hne, hchanges⟩ := hlist jar.changes h.named
  refine ⟨changes, ?_, hne, hchanges⟩
  have hmap := h.isMap
  rw [Table.IsMap, hchanges, List.map_map] at hmap
  exact List.Nodup.of_map cookieName (by rwa [List.map_map])

/-- A cookie is carried when it stands among the pairs of the request. -/
theorem isSome_get?_ofPairs {pairs : List (String × String)} {name : String} :
    (Table.get? (Table.ofPairs pairs) name).isSome ↔ ∃ value, (name, value) ∈ pairs := by
  rw [Table.get?_ofPairs, Option.isSome_iff_ne_none, ne_eq, Table.get?_eq_none_iff]
  constructor
  · intro h
    push Not at h
    obtain ⟨p, hp, rfl⟩ := h
    exact ⟨p.2, List.mem_reverse.mp hp⟩
  · rintro ⟨value, hmem⟩ h
    exact h _ (List.mem_reverse.mpr hmem) rfl

/-- The jar of a request answers as the map of its tokens, after any sequence of operations. An
operation leaves every cookie alone but that of its storage, and the storage without a name has
none. The lines in the end are those of the last changes, where to forget a token is told only to
a browser that has it. -/
theorem jar_refines_ledger (hs : Headers) (p : Policy) (ops : List Op) :
    let jar := run (Jar.ofHeaders hs) ops
    (∀ storage, token? jar storage = (Ledger.ofHeaders hs).after ops storage) ∧
    (∀ op : Op, op.storage = "" → op.apply jar = jar ∧ token? jar op.storage = none) ∧
    (∀ (op : Op) (name : String), cookieName? op.storage ≠ some name →
      (op.apply jar).value? name = jar.value? name) ∧
    ∃ changes : List (String × Change), (changes.map Prod.fst).Nodup ∧
      (∀ storage c, (storage, c) ∈ changes ↔ storage ≠ "" ∧ lastChange? storage ops = some c ∧
        (c = .expire → ∃ value, (cookieName storage, value) ∈ pairs hs)) ∧
      (Jar.setCookies p jar).map (fun h => (h.name, readLine? h.value)) =
        changes.map fun w => ("set-cookie", some (.ofChange p (cookieName w.1) w.2)) := by
  intro jar
  have hrecords : Records (Table.ofPairs (pairs hs)) ops jar := Records.run _ ops
  obtain ⟨changes, hnodup, hne, hchanges⟩ := hrecords.exists_changes
  refine ⟨token?_run_eq_after (token?_ofHeaders hs) ops, fun op hop => ?_, fun op name hname =>
    op.value?_apply jar hname, changes, hnodup, fun storage c => ?_, ?_⟩
  · rw [op.apply_of_empty hop, hop]
    exact ⟨rfl, token?_empty jar⟩
  · have hentry (hstorage : storage ≠ "") : (storage, c) ∈ changes ↔
        Table.get? jar.changes (cookieName storage) = some c := by
      rw [← Table.mem_iff_get? hrecords.isMap, hchanges, List.mem_map]
      constructor
      · exact fun hmem => ⟨_, hmem, rfl⟩
      · rintro ⟨w, hw, heq⟩
        rw [Prod.mk.injEq, cookieName_injective.eq_iff] at heq
        exact (Prod.ext heq.1 heq.2 : w = (storage, c)) ▸ hw
    by_cases hstorage : storage = ""
    · exact ⟨fun hmem => absurd hstorage (hne _ hmem), fun h => absurd hstorage h.1⟩
    · rw [hentry hstorage, hrecords.last storage hstorage, Option.filter_eq_some_iff,
        decide_eq_true_eq, isSome_get?_ofPairs, ← imp_iff_not_or]
      exact ⟨fun h => ⟨hstorage, h⟩, And.right⟩
  · rw [Jar.setCookies, hchanges, List.map_map, List.map_map]
    refine List.map_congr_left fun w _ => ?_
    exact congrArg (Prod.mk _) (readLine?_line p (cookieName_ne_empty w.1) w.2)

end Session

end StorageGateway
