import AccountResolver.Kube.Endpoint

/-!
# Different resources under different URLs

Everything that an endpoint asks for lies below one root. Behind it stands either the name of the
collection, for the whole cluster, or a namespace, the name of the collection and, for a single
resource, its name. A namespace holds no slash, so it can be told from what follows it; a name may
hold anything.
-/

namespace AccountResolver.Kube.Endpoint

open Resource (Key)

/-! ### Characters of the URLs -/

theorem resourceUrl_toList (e : Endpoint) (k : Key) :
    (e.resourceUrl k).toList = e.root.toList ++
      ("/namespaces/".toList ++ (k.ns.toList ++ '/' :: (plural.toList ++ '/' :: k.name.toList))) := by
  simp [resourceUrl]

theorem collectionUrl_toList_some {e : Endpoint} {ns : String} (h : e.ns = some ns) :
    e.collectionUrl.toList = e.root.toList ++
      ("/namespaces/".toList ++ (ns.toList ++ '/' :: plural.toList)) := by
  simp [collectionUrl, h]

theorem collectionUrl_toList_none {e : Endpoint} (h : e.ns = none) :
    e.collectionUrl.toList = e.root.toList ++ '/' :: plural.toList := by
  simp [collectionUrl, h]

/-- What stands before the first slash, and what stands behind it. -/
theorem before_slash_inj {a b x y : List Char} (ha : '/' ∉ a) (hb : '/' ∉ b)
    (h : a ++ '/' :: x = b ++ '/' :: y) : a = b ∧ x = y := by
  have hsplit := congrArg (List.splitOn '/') h
  rw [List.splitOn_append_cons_self_of_not_mem ha, List.splitOn_append_cons_self_of_not_mem hb]
    at hsplit
  obtain rfl : a = b := (List.cons.inj hsplit).1
  have hrest := List.append_cancel_left h
  exact ⟨rfl, (List.cons.inj hrest).2⟩

/-- A path of a namespace is no path of the whole cluster. -/
theorem namespaces_ne_plural (s : List Char) :
    "/namespaces/".toList ++ s ≠ '/' :: plural.toList := by
  intro h
  have hhead := congrArg (List.take 4) h
  rw [List.take_append_of_le_length (by decide)] at hhead
  exact absurd hhead (by decide)

/-! ### URLs below one root -/

section

variable {e f : Endpoint}

theorem resourceUrl_inj (hroot : e.root = f.root) {k l : Key} (hk : '/' ∉ k.ns.toList)
    (hl : '/' ∉ l.ns.toList) (h : e.resourceUrl k = f.resourceUrl l) : k = l := by
  have hchars := congrArg String.toList h
  rw [resourceUrl_toList, resourceUrl_toList, hroot] at hchars
  have hpath := List.append_cancel_left (List.append_cancel_left hchars)
  obtain ⟨hns, hrest⟩ := before_slash_inj hk hl hpath
  have hname := (List.cons.inj (List.append_cancel_left hrest)).2
  obtain ⟨ns, name⟩ := k
  obtain ⟨ns', name'⟩ := l
  rw [String.toList_inj] at hns hname
  cases hns
  cases hname
  rfl

theorem resourceUrl_ne_collectionUrl (hroot : e.root = f.root) {k : Key} (hk : '/' ∉ k.ns.toList)
    (hf : ∀ ns, f.ns = some ns → '/' ∉ ns.toList) : e.resourceUrl k ≠ f.collectionUrl := by
  intro h
  have hchars := congrArg String.toList h
  rw [resourceUrl_toList, hroot] at hchars
  cases hns : f.ns with
  | none =>
    rw [collectionUrl_toList_none hns] at hchars
    exact namespaces_ne_plural _ (List.append_cancel_left hchars)
  | some ns =>
    rw [collectionUrl_toList_some hns] at hchars
    have hpath := List.append_cancel_left (List.append_cancel_left hchars)
    obtain ⟨-, hrest⟩ := before_slash_inj hk (hf ns hns) hpath
    have hlength := congrArg List.length hrest
    simp at hlength

theorem collectionUrl_eq_iff (hroot : e.root = f.root) :
    e.collectionUrl = f.collectionUrl ↔ e.ns = f.ns := by
  rw [← String.toList_inj]
  cases he : e.ns with
  | none =>
    rw [collectionUrl_toList_none he, hroot]
    cases hf : f.ns with
    | none => simp [collectionUrl_toList_none hf]
    | some ns =>
      rw [collectionUrl_toList_some hf, List.append_cancel_left_eq]
      simpa using (namespaces_ne_plural _).symm
  | some ns =>
    rw [collectionUrl_toList_some he, hroot]
    cases hf : f.ns with
    | none =>
      rw [collectionUrl_toList_none hf, List.append_cancel_left_eq]
      simpa using namespaces_ne_plural _
    | some ns' =>
      rw [collectionUrl_toList_some hf, List.append_cancel_left_eq, List.append_cancel_left_eq,
        List.append_cancel_right_eq, String.toList_inj, Option.some.injEq]

end

/-! ### Configured URLs -/

theorem dropTrailing_append_replicate (c : Char) (s : List Char) (n : Nat) :
    Text.dropTrailing c (s ++ List.replicate n c) = Text.dropTrailing c s := by
  rw [Text.dropTrailing, List.reverse_append, List.reverse_replicate,
    List.dropWhile_append_of_pos (by simp), Text.dropTrailing]

theorem ofUrl_append_slashes (url : String) (n : Nat) (ns : Option String) :
    ofUrl (url ++ String.ofList (List.replicate n '/')) ns = ofUrl url ns := by
  rw [ofUrl, ofUrl, withoutSlashes, withoutSlashes, String.toList_append, String.toList_ofList,
    dropTrailing_append_replicate]

/-- The namespace that is watched does not show in the root. -/
theorem root_ofUrl (url : String) (ns other : Option String) :
    (ofUrl url ns).root = (ofUrl url other).root := rfl

theorem watched_eq_none_iff (ns : Option String) : watched ns = none ↔ ns = none ∨ ns = some "" := by
  cases ns <;> simp [watched]

theorem watched_of_ne {ns : String} (h : ns ≠ "") : watched (some ns) = some ns := by
  simp [watched, h]

/-- Below one configured URL, keys whose namespaces hold no slash have different URLs, and none
of them is the URL of a collection. The collections of different namespaces have different URLs,
and the one of the whole cluster is asked for just where no namespace is set, or an empty one.
Slashes at the end of the configured URL do not count. -/
theorem urls_apart (url : String) (k l : Key) (hk : '/' ∉ k.ns.toList) (hl : '/' ∉ l.ns.toList) :
    (∀ (c : KubeConfig) (env : Environment), c.apiUrl = some url →
      ofConfig c env = .ok (ofUrl url c.ns)) ∧
    (∀ ns other, (ofUrl url ns).resourceUrl k = (ofUrl url other).resourceUrl l → k = l) ∧
    (∀ ns other : Option String, (∀ w, other = some w → '/' ∉ w.toList) →
      (ofUrl url ns).resourceUrl k ≠ (ofUrl url other).collectionUrl) ∧
    (∀ ns other : String, ns ≠ "" → other ≠ "" → ns ≠ other →
      (ofUrl url (some ns)).collectionUrl ≠ (ofUrl url (some other)).collectionUrl) ∧
    (∀ ns, (ofUrl url ns).collectionUrl = (ofUrl url none).collectionUrl ↔
      ns = none ∨ ns = some "") ∧
    ∀ (n : Nat) (ns : Option String),
      let slashed := ofUrl (url ++ String.ofList (List.replicate n '/')) ns
      slashed.resourceUrl k = (ofUrl url ns).resourceUrl k ∧
        slashed.collectionUrl = (ofUrl url ns).collectionUrl := by
  refine ⟨?_, ?_, ?_, ?_, ?_, ?_⟩
  · intro c env hurl
    rw [ofConfig, hurl]
  · intro ns other h
    exact resourceUrl_inj (root_ofUrl url ns other) hk hl h
  · intro ns other hother
    refine resourceUrl_ne_collectionUrl (root_ofUrl url ns other) hk fun w hw => hother w ?_
    exact Option.eq_some_of_filter_eq_some hw
  · intro ns other hns hother hne h
    have hwatched : watched (some ns) = watched (some other) :=
      (collectionUrl_eq_iff (root_ofUrl url (some ns) (some other))).1 h
    rw [watched_of_ne hns, watched_of_ne hother] at hwatched
    exact hne (Option.some.inj hwatched)
  · intro ns
    rw [collectionUrl_eq_iff (root_ofUrl url ns none)]
    exact watched_eq_none_iff ns
  · intro n ns slashed
    have hsame : slashed = ofUrl url ns := ofUrl_append_slashes url n ns
    rw [hsame]
    exact ⟨rfl, rfl⟩

/-- A name may spell a path below another resource and below the collection. -/
theorem urls_apart_of_nested_name :
    let url := "http://127.0.0.1:8001/"
    let nested : Key := ⟨"nats", "alpha/natsaccounts/alpha"⟩
    let plain : Key := ⟨"nats", "alpha"⟩
    ('/' ∉ nested.ns.toList ∧ '/' ∉ plain.ns.toList) ∧
      (ofUrl url none).resourceUrl nested ≠ (ofUrl url none).resourceUrl plain ∧
      (ofUrl url none).resourceUrl nested ≠ (ofUrl url (some "nats")).collectionUrl ∧
      (ofUrl url (some "nats")).collectionUrl ≠ (ofUrl url (some "old")).collectionUrl := by
  intro url nested plain
  have hfree : '/' ∉ nested.ns.toList ∧ '/' ∉ plain.ns.toList := by decide
  obtain ⟨-, hkeys, hcollection, hcollections, -, -⟩ := urls_apart url nested plain hfree.1 hfree.2
  refine ⟨hfree, ?_, ?_, ?_⟩
  · intro h
    exact absurd (hkeys none none h) (by decide)
  · refine hcollection none (some "nats") ?_
    intro w hw
    rw [← Option.some.inj hw]
    decide
  · exact hcollections "nats" "old" (by decide) (by decide) (by decide)

end AccountResolver.Kube.Endpoint
