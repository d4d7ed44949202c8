import StorageGateway.Proofs.Cookie.Table
import StorageGateway.Proofs.Text.FormData
import StorageGateway.Session

/-!
# The token cookie of a storage

Different storages have different cookies. While a request about a storage is served, the only
change of the jar is that of this one cookie: it is called the mark of the request here. Writing
the token a second time replaces the first mark, and forgetting a token that the request did not
carry leaves no mark.

## Main definitions

* `Session.cookieName`: the cookie of a storage that has a name.
* `Session.marks`, `Session.marked`: the changes that a mark stands for, and a jar with them.
* `Session.isHeld`: whether a request carried the cookie of a storage.

## Main results

* `Session.cookieName_injective`: cookies identify storages.
* `Session.store_marked`, `Session.clear_marked`: the mark after a change.
-/

namespace StorageGateway.Session

open Cookie

/-! ### Names -/

/-- The cookie of a storage that has a name. -/
def cookieName (storage : String) : String :=
  "fs_" ++ String.ofList (FormData.encodeText storage)

theorem cookieName?_of_ne {storage : String} (h : storage ≠ "") :
    cookieName? storage = some (cookieName storage) := by
  simp [cookieName?, cookieName, h]

@[simp] theorem cookieName?_empty : cookieName? "" = none := rfl

theorem cookieName?_eq_some {storage name : String} (h : cookieName? storage = some name) :
    storage ≠ "" ∧ name = cookieName storage := by
  by_cases hs : storage = ""
  · simp [hs] at h
  · rw [cookieName?_of_ne hs] at h
    exact ⟨hs, (Option.some.inj h).symm⟩

/-- Cookies identify storages. -/
theorem cookieName_injective : Function.Injective cookieName := by
  intro s t h
  have hlist := congrArg String.toList h
  simp only [cookieName, String.toList_append, String.toList_ofList, List.append_cancel_left_eq]
    at hlist
  exact FormData.encodeText_injective hlist

theorem cookieName_ne_empty (storage : String) : cookieName storage ≠ "" := by
  intro h
  have hlist := congrArg String.toList h
  simp [cookieName] at hlist

/-! ### Marks -/

/-- The changes of a jar in which the cookie of a storage got a mark. -/
def marks (storage : String) (mark : Option Change) : Table Change :=
  ((cookieName? storage).bind fun name => mark.map fun change => (name, change)).toList

/-- A jar whose only change is a mark. -/
def marked (jar : Jar) (storage : String) (mark : Option Change) : Jar :=
  { jar with changes := marks storage mark }

@[simp] theorem marks_none (storage : String) : marks storage none = [] := by
  cases h : cookieName? storage <;> simp [marks, h]

theorem marks_some {storage name : String} (h : cookieName? storage = some name)
    (change : Change) : marks storage (some change) = [(name, change)] := by
  simp [marks, h]

theorem length_marks_le (storage : String) (mark : Option Change) :
    (marks storage mark).length ≤ 1 := by
  rw [marks]
  exact Option.length_toList_le

theorem mem_marks {storage : String} {mark : Option Change} {p : String × Change}
    (h : p ∈ marks storage mark) : cookieName? storage = some p.1 ∧ mark = some p.2 := by
  rw [marks, Option.mem_toList, Option.bind_eq_some_iff] at h
  obtain ⟨name, hname, h⟩ := h
  obtain ⟨change, hchange, rfl⟩ := Option.map_eq_some_iff.mp h
  exact ⟨hname, hchange⟩

theorem marked_none {jar : Jar} (h : jar.changes = []) (storage : String) :
    marked jar storage none = jar := by
  rw [marked, marks_none, ← h]

/-- Writing a token replaces the mark. -/
theorem store_marked (jar : Jar) (storage token : String) (mark : Option Change) :
    store (marked jar storage mark) storage token = marked jar storage (some (.store token)) := by
  cases h : cookieName? storage with
  | none => simp [store, marked, marks, h]
  | some name =>
    cases mark with
    | none => simp [store, marked, marks, h, Jar.store, Table.put]
    | some change => simp [store, marked, marks, h, Jar.store, Table.put_singleton_self]

/-- Whether a request carried the cookie of a storage. -/
def isHeld (jar : Jar) (storage : String) : Bool :=
  ((cookieName? storage).bind (Table.get? jar.carried)).isSome

/-- Forgetting a token leaves a mark only where the request carried the cookie. -/
theorem clear_marked (jar : Jar) (storage : String) :
    clear (marked jar storage none) storage =
      marked jar storage (if isHeld jar storage then some .expire else none) := by
  cases h : cookieName? storage with
  | none => simp [clear, marked, marks, h]
  | some name =>
    cases hcarried : Table.get? jar.carried name with
    | none => simp [clear, marked, marks, h, Jar.remove, isHeld, hcarried]
    | some value => simp [clear, marked, marks, h, Jar.remove, isHeld, hcarried, Table.put]

end StorageGateway.Session
