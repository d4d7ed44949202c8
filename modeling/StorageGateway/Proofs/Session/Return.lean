import StorageGateway.Proofs.Session.Operations

/-!
# A token on its way to the browser and back

The name of a storage is form-encoded in the name of its cookie, and both the name and the token
are percent-encoded in the `set-cookie` line. What is written consists of visible ASCII without the
marks that end a cookie, quote it or divide it. When the browser sends it back, the reader undoes
the outer encoding only, which leaves the name of the cookie and the token. The inner encoding
keeps different storages apart.

## Main definitions

* `Cookie.IsBareChar`: characters that neither end nor quote nor divide a cookie.
* `Cookie.sentField`: the field of a request in which cookies are sent.

## Main results

* `Cookie.isBareChar_of_mem_encoded`: what is written.
* `Cookie.pairs_sentField_pairText`: what a cookie that was written is read as.
* `Session.cookieName?_injective`: cookies identify storages.
* `Session.tokens_come_back_in_own_cookies`: the way out and the way back.
-/

namespace StorageGateway

namespace Cookie

/-! ### Writing -/

/-- Visible ASCII other than the marks that end a cookie, divide fields and lists, quote a value or
stand between name and value. -/
def IsBareChar (c : Char) : Prop :=
  0x21 ≤ c.toNat ∧ c.toNat ≤ 0x7E ∧ c ∉ [';', ',', '"', '=']

theorem isBareChar_of_mem_encoded {s : String} : ∀ c ∈ (encoded s).toList, IsBareChar c := by
  intro c hc
  obtain ⟨hsemicolon, hequals, hlow, hhigh⟩ := isPairChar_of_mem_encoded c hc
  have hcomma : c ≠ ',' := ne_of_mem_encoded hc (by decide) (by decide)
  have hquote : c ≠ '"' := ne_of_mem_encoded hc (by decide) (by decide)
  exact ⟨hlow, Nat.le_of_lt_succ hhigh, by simp [hsemicolon, hcomma, hquote, hequals]⟩

/-- Storing a cookie replaces the line of its name, and its own line starts with the pair. -/
theorem setCookies_store (p : Policy) (jar : Jar) (name value : String) :
    ∃ attributes, (jar.store name value).setCookies p =
      Jar.setCookies p { jar with changes := Table.drop jar.changes name } ++
        [.ofText "set-cookie" (pairText name value ++ ";" ++ attributes)] := by
  obtain ⟨attributes, hline⟩ := Browser.Store.line_eq p name (.store value)
  refine ⟨attributes, ?_⟩
  rw [← hline, Jar.setCookies, Jar.store, Table.put, List.map_append]
  rfl

/-! ### Reading -/

/-- The field in which some cookies are sent, each as it stands between semicolons and blanks. -/
def sentField (cookies : List Bytes) : Header := ⟨"cookie", [0x3B, 0x20].intercalate cookies⟩

theorem pairsOfField_of_isVisible {bs : Bytes} (h : isVisible bs = true) :
    pairsOfField bs = splitPairs bs := by
  rw [pairsOfField_eq, if_pos (show (Header.text? bs).isSome = true from h)]

theorem pairs_append (hs others : Headers) : pairs (hs ++ others) = pairs hs ++ pairs others := by
  rw [pairs, Headers.all_append, List.flatMap_append]
  rfl

theorem pairs_cons (h : Header) (hs : Headers) : pairs (h :: hs) = pairs [h] ++ pairs hs :=
  pairs_append [h] hs

/-- The cookies of a field are read one by one. -/
theorem pairs_sentField {cookies : List Bytes} (h : ∀ c ∈ cookies, isVisible c = true) :
    pairs [sentField cookies] = cookies.flatMap pairsOfField := by
  have hfield : pairs [sentField cookies] = pairsOfField ([0x3B, 0x20].intercalate cookies) :=
    List.append_nil _
  rw [hfield, pairsOfField_intercalate, if_pos (List.all_eq_true.mpr h)]
  exact List.flatMap_congr fun c hc => (pairsOfField_of_isVisible (h c hc)).symm

theorem isVisible_pairText (name value : String) :
    isVisible (Bytes.ofAscii (pairText name value)) = true :=
  (isVisible_entryBytes_encoded name (encoded value)).trans (isVisible_encoded value)

theorem pairsOfField_pairText {name : String} (hname : name ≠ "") (value : String) :
    pairsOfField (Bytes.ofAscii (pairText name value)) = [(name, value)] :=
  (pairsOfField_of_isVisible (isVisible_pairText name value)).trans (splitPairs_encoded hname value)

/-- A cookie that was written is read as it was meant, and what is sent beside it, in its field or
in others, as it would be without it. -/
theorem pairs_sentField_pairText {name : String} (hname : name ≠ "") (value : String)
    (hs others : Headers) {before after : List Bytes}
    (h : ∀ c ∈ before ++ after, isVisible c = true) :
    pairs (hs ++ sentField (before ++ Bytes.ofAscii (pairText name value) :: after) :: others) =
      pairs hs ++ before.flatMap pairsOfField ++
        (name, value) :: (after.flatMap pairsOfField ++ pairs others) := by
  rw [List.forall_mem_append] at h
  have hvisible : ∀ c ∈ before ++ Bytes.ofAscii (pairText name value) :: after,
      isVisible c = true :=
    List.forall_mem_append.mpr
      ⟨h.1, List.forall_mem_cons.mpr ⟨isVisible_pairText name value, h.2⟩⟩
  rw [pairs_append, pairs_cons, pairs_sentField hvisible, List.flatMap_append, List.flatMap_cons,
    pairsOfField_pairText hname]
  simp only [List.append_assoc, List.cons_append, List.nil_append]

/-- The only pair of a name among pairs of other names. -/
theorem filter_name_between {name value : String} {before after : List (String × String)}
    (h : ∀ q ∈ before ++ after, q.1 ≠ name) :
    (before ++ (name, value) :: after).filter (·.1 == name) = [(name, value)] := by
  have hnone {entries : List (String × String)} (hentries : ∀ q ∈ entries, q.1 ≠ name) :
      entries.filter (·.1 == name) = [] := by
    rw [List.filter_eq_nil_iff]
    intro q hq
    simpa using hentries q hq
  rw [List.forall_mem_append] at h
  rw [List.filter_append, List.filter_cons_of_pos (by simp), hnone h.1, hnone h.2, List.nil_append]

/-- A jar holds the value of the only pair of a name. -/
theorem value?_ofHeaders {hs : Headers} {name value : String}
    (h : (pairs hs).filter (·.1 == name) = [(name, value)]) :
    (Jar.ofHeaders hs).value? name = some value := by
  have hpair : [(name, value)].filter (·.1 == name) = [(name, value)] :=
    List.filter_cons_of_pos (by simp)
  change Table.get? (Table.ofPairs (pairs hs)) name = some value
  rw [Table.get?_ofPairs_congr (h.trans hpair.symm), Table.get?_ofPairs, List.reverse_singleton,
    Table.get?_cons, if_pos rfl]

end Cookie

namespace Session

open Cookie

/-- Cookies identify storages, the one without a name included. -/
theorem cookieName?_injective : Function.Injective cookieName? := by
  intro s t h
  by_cases ht : t = ""
  · rw [ht, cookieName?_empty] at h
    rw [ht]
    by_contra hs
    rw [cookieName?_of_ne hs] at h
    cases h
  · rw [cookieName?_of_ne ht] at h
    exact (cookieName_injective (cookieName?_eq_some h).2).symm

/-- Different storages have different cookies. The line that stores a token starts with the name and
the token, encoded and without any mark. A request that carries this pair, alone or between other
cookies, is read as carrying the cookie of the storage with the token, and the other cookies are
read as they would be without it. If none of them has this name, the token is the one that is found
for the storage. -/
theorem tokens_come_back_in_own_cookies :
    Function.Injective cookieName? ∧
    cookieName? "" = none ∧ (∀ (jar : Jar) (token : String), store jar "" token = jar) ∧
    ∀ storage token : String, storage ≠ "" → ∃ name : String, cookieName? storage = some name ∧
      (∀ (p : Policy) (jar : Jar), ∃ attributes : String,
        (store jar storage token).setCookies p =
          Jar.setCookies p { jar with changes := Table.drop jar.changes name } ++
            [.ofText "set-cookie" (encoded name ++ "=" ++ encoded token ++ ";" ++ attributes)]) ∧
      (∀ c ∈ (encoded name).toList ++ (encoded token).toList, IsBareChar c) ∧
      ∀ (hs others : Headers) (before after : List Bytes),
        (∀ c ∈ before ++ after, (Header.text? c).isSome) →
        let cookie := Bytes.ofAscii (encoded name ++ "=" ++ encoded token)
        let request := hs ++ sentField (before ++ cookie :: after) :: others
        let front := pairs hs ++ before.flatMap pairsOfField
        let back := after.flatMap pairsOfField ++ pairs others
        pairs request = front ++ (name, token) :: back ∧
        ((∀ q ∈ front ++ back, q.1 ≠ name) →
          (pairs request).filter (·.1 == name) = [(name, token)] ∧
          (Jar.ofHeaders request).value? name = some token ∧
          token? (Jar.ofHeaders request) storage = Ledger.ofText token) := by
  refine ⟨cookieName?_injective, rfl, fun _ _ => rfl, fun storage token hstorage =>
    ⟨cookieName storage, cookieName?_of_ne hstorage, fun p jar => ?_, ?_, ?_⟩⟩
  · rw [store_of_ne jar hstorage]
    exact setCookies_store p jar (cookieName storage) token
  · exact List.forall_mem_append.mpr ⟨isBareChar_of_mem_encoded, isBareChar_of_mem_encoded⟩
  · intro hs others before after hvisible cookie request front back
    have hpairs : pairs request = front ++ (cookieName storage, token) :: back :=
      pairs_sentField_pairText (cookieName_ne_empty storage) token hs others hvisible
    refine ⟨hpairs, fun hother => ?_⟩
    have honly : (pairs request).filter (·.1 == cookieName storage) =
        [(cookieName storage, token)] := by
      rw [hpairs, filter_name_between hother]
    have hvalue := value?_ofHeaders honly
    refine ⟨honly, hvalue, ?_⟩
    rw [token?_of_ne _ hstorage, hvalue, Option.bind_some]

/-- The name that is sent first looks like that of the cookie of `a+b`, but it is read as that of
the cookie of `a b`, and the token of `a+b` is found in the cookie sent behind it. -/
theorem tokens_come_back_in_own_cookies_plus :
    let before := Bytes.ofAscii "fs_a%2Bb=old"
    let after := Bytes.ofAscii "seen"
    let request : Headers :=
      [.ofText "cookie" "fs_a%2Bb=old; fs_a%252Bb=t%3B%3D%22%2C%C3%A9; seen"]
    "a+b" ≠ "" ∧ (∀ c ∈ [before] ++ [after], (Header.text? c).isSome) ∧
      cookieName? "a b" = some "fs_a+b" ∧ cookieName? "a+b" = some "fs_a%2Bb" ∧
      (∀ q ∈ [before].flatMap pairsOfField ++ [after].flatMap pairsOfField, q.1 ≠ "fs_a%2Bb") ∧
      pairs request = [("fs_a+b", "old"), ("fs_a%2Bb", "t;=\",é")] ∧
      token? (Jar.ofHeaders request) "a+b" = some "t;=\",é" := by
  intro before after request
  have hvisible : ∀ c ∈ [before] ++ [after], (Header.text? c).isSome := by decide +kernel
  have hname : cookieName? "a+b" = some "fs_a%2Bb" := by decide +kernel
  have hother : ∀ q ∈ [before].flatMap pairsOfField ++ [after].flatMap pairsOfField,
      q.1 ≠ "fs_a%2Bb" := by decide +kernel
  obtain ⟨name, hown, -, -, hback⟩ :=
    tokens_come_back_in_own_cookies.2.2.2 "a+b" "t;=\",é" (by decide)
  obtain rfl : "fs_a%2Bb" = name := Option.some.inj (hname.symm.trans hown)
  obtain ⟨hpairs, hfound⟩ := hback [] [] [before] [after] hvisible
  have hrequest : ([] ++ sentField ([before] ++ Bytes.ofAscii (encoded "fs_a%2Bb" ++ "=" ++
      encoded "t;=\",é") :: [after]) :: [] : Headers) = request := by decide +kernel
  rw [hrequest] at hpairs hfound
  have hbefore : [before].flatMap pairsOfField = [("fs_a+b", "old")] := by decide +kernel
  have hafter : [after].flatMap pairsOfField = [] := by decide +kernel
  refine ⟨by decide, hvisible, by decide +kernel, hname, hother, ?_, ?_⟩
  · rw [hpairs, hbefore, hafter]
    rfl
  · have hnone : pairs [] = [] := rfl
    rw [hnone, List.nil_append, List.append_nil] at hfound
    exact (hfound hother).2.2

end Session

end StorageGateway
