/-
# Where paths lead

Walking along a path only asks whether the places on the way are directories; which places these are
follows from the path itself.  So a path leads to the same place for as long as these directories
are there, whatever else happens to the file system, and a plain name that is joined to the path of
a directory leads into that directory.

* `FileSystem.Closed` says that what there is is in a directory;
* `FileSystem.visited` are the places on the way, and `FileSystem.walk_eq_ok_iff` says what a walk
  comes to;
* `FileSystem.SameOutside` says that nothing has changed except at one place and below, and
  `FileSystem.SameOutside.find` that a path which keeps away from there leads where it did;
* `FileSystem.target_join` is about names that are joined to a path.
-/
import BenchRoster.FileSystem
import Mathlib.Data.List.Basic
import Mathlib.Data.List.Induction
import Mathlib.Tactic.Lemma

namespace BenchRoster

/-! ## Paths with a name at the end -/

namespace Path

/-- A name that stands for an entry of a directory. -/
structure Plain (name : String) : Prop where
  ne_empty : name ≠ ""
  ne_dot : name ≠ "."
  ne_parent : name ≠ ".."
  no_slash : '/' ∉ name.toList
  no_nul : '\x00' ∉ name.toList

lemma split_ne_nil (cs : List Char) : split cs ≠ [] := by
  cases cs with
  | nil => simp [split]
  | cons c cs =>
    rw [split]
    split
    · simp
    · split <;> simp

/-- A slash begins a new piece. -/
lemma split_append_slash (as bs : List Char) : split (as ++ '/' :: bs) = split as ++ split bs := by
  induction as with
  | nil => rfl
  | cons a as ih =>
    rw [List.cons_append, split, split, ih]
    split
    · rfl
    · rcases hs : split as with _ | ⟨p, ps⟩
      · exact absurd hs (split_ne_nil as)
      · rfl

/-- Without slashes there is one piece. -/
lemma split_of_no_slash {cs : List Char} (h : '/' ∉ cs) : split cs = [cs] := by
  induction cs with
  | nil => rfl
  | cons c cs ih =>
    obtain ⟨hc, hcs⟩ := not_or.1 (mt List.mem_cons.2 h)
    rw [split, if_neg (Ne.symm hc), ih hcs]

lemma pieces_append_slash (s t : String) : pieces (s ++ "/" ++ t) = pieces s ++ pieces t := by
  rw [pieces, String.toList_append, String.toList_append, List.append_assoc]
  show (split (s.toList ++ '/' :: t.toList)).map String.ofList = _
  rw [split_append_slash, List.map_append]
  rfl

lemma pieces_plain {name : String} (h : Plain name) : pieces name = [name] := by
  rw [pieces, split_of_no_slash h.no_slash, List.map_singleton, String.ofList_toList]

lemma isAbsolute_plain {name : String} (h : Plain name) : isAbsolute name = false := by
  rw [isAbsolute]
  rcases hn : name.toList with _ | ⟨c, cs⟩
  · rfl
  · have hc : '/' ≠ c := fun he => h.no_slash (by rw [hn, he]; exact List.mem_cons_self)
    simpa using hc.symm

/-- A text that ends in a slash is some text and that slash. -/
lemma exists_of_getLast? {base : String} (h : base.toList.getLast? = some '/') :
    ∃ s : String, base = s ++ "/" := by
  obtain ⟨cs, hcs⟩ := List.getLast?_eq_some_iff.1 h
  refine ⟨String.ofList cs, String.toList_injective ?_⟩
  rw [hcs, String.toList_append, String.toList_ofList]
  rfl

/-- Joining a relative path adds its pieces; a last piece without characters gives way to them. -/
lemma pieces_join_relative {base s : String} (hb : base ≠ "") (hs : isAbsolute s = false) :
    ∃ cs, pieces (join base s) = cs ++ pieces s ∧
      (pieces base = cs ∨ pieces base = cs ++ [""]) := by
  have he : base.isEmpty = false := by simpa using hb
  rw [join, hs]
  by_cases hl : base.toList.getLast? = some '/'
  · obtain ⟨t, rfl⟩ := exists_of_getLast? hl
    refine ⟨pieces t, ?_, .inr ?_⟩
    · simp only [he, hl, Bool.false_eq_true, false_or, if_true, if_false]
      rw [pieces_append_slash]
    · have h := pieces_append_slash t ""
      rwa [String.append_empty] at h
  · refine ⟨pieces base, ?_, .inl rfl⟩
    simp only [he, hl, Bool.false_eq_true, or_self, if_false]
    rw [pieces_append_slash]

/-- Joining a name adds a piece; a last piece without characters gives way to it. -/
lemma pieces_join {base name : String} (hb : base ≠ "") (hn : Plain name) :
    ∃ cs, pieces (join base name) = cs ++ [name] ∧
      (pieces base = cs ∨ pieces base = cs ++ [""]) := by
  have h := pieces_join_relative hb (isAbsolute_plain hn)
  rwa [pieces_plain hn] at h

lemma toList_join (base : String) {name : String} (hn : Plain name) :
    (join base name).toList = base.toList ++ name.toList ∨
      (join base name).toList = base.toList ++ '/' :: name.toList := by
  rw [join, isAbsolute_plain hn]
  split
  · contradiction
  · split
    · exact .inl (String.toList_append ..)
    · right
      rw [String.toList_append, String.toList_append, List.append_assoc]
      rfl

/-- A path that a relative one was joined to begins as it did. -/
lemma isAbsolute_join_relative {base s : String} (hb : base ≠ "") (hs : isAbsolute s = false) :
    isAbsolute (join base s) = isAbsolute base := by
  rcases hc : base.toList with _ | ⟨c, cs⟩
  · exact absurd (String.toList_injective hc) hb
  · rw [join, hs]
    simp only [Bool.false_eq_true, if_false]
    split <;> simp [isAbsolute, String.toList_append, hc]

/-- A path with a name at the end begins as the path did. -/
lemma isAbsolute_join {base name : String} (hb : base ≠ "") (hn : Plain name) :
    isAbsolute (join base name) = isAbsolute base :=
  isAbsolute_join_relative hb (isAbsolute_plain hn)

end Path

/-! ## What is at a place -/

namespace FileSystem

variable {fs : FileSystem} {wd p q : Place} {e : Entry} {path : String}

lemma lookup_filter_of_pos (f : Place → Bool) (h : f q = true) (es : List (Place × Entry)) :
    (es.filter fun x => f x.1).lookup q = es.lookup q := by
  induction es with
  | nil => rfl
  | cons x es ih =>
    obtain ⟨k, v⟩ := x
    by_cases hk : q = k
    · subst hk
      rw [List.filter_cons, if_pos h, List.lookup_cons_self, List.lookup_cons_self]
    · have hb : (q == k) = false := beq_eq_false_iff_ne.2 hk
      rw [List.filter_cons]
      split
      · rw [List.lookup_cons, List.lookup_cons, hb]
        exact ih
      · rw [List.lookup_cons, hb]
        exact ih

lemma lookup_filter_of_neg (f : Place → Bool) (h : f q = false) (es : List (Place × Entry)) :
    (es.filter fun x => f x.1).lookup q = none := by
  rw [List.lookup_eq_none_iff]
  intro x hx
  have hf := (List.mem_filter.1 hx).2
  rw [bne_iff_ne]
  rintro rfl
  rw [h] at hf
  cases hf

/-- What is at a place after something was put somewhere. -/
lemma entry?_put (hp : p ≠ []) (q : Place) :
    FileSystem.entry? (fs.put p e) q = if q = p then some e else fs.entry? q := by
  rw [ entry?, entry?, put]
  by_cases hq : q = p
  · rw [if_pos hq, if_neg (hq ▸ hp), hq, List.lookup_cons_self]
  · rw [if_neg hq, List.lookup_cons, beq_eq_false_iff_ne.2 hq,
      lookup_filter_of_pos (· != p) (bne_iff_ne.2 hq)]

/-- What is at a place after another one was removed with all that is below it. -/
lemma entry?_removeAll (hp : p ≠ []) (q : Place) :
    FileSystem.entry? (fs.removeAll p) q = if p <+: q then none else fs.entry? q := by
  rw [ entry?, entry?, removeAll]
  by_cases hq : p <+: q
  · have hne : q ≠ [] := by
      rintro rfl
      exact hp (List.prefix_nil.1 hq)
    rw [if_pos hq, if_neg hne]
    exact lookup_filter_of_neg (fun x => !p.isPrefixOf x) (by simpa using hq) _
  · rw [if_neg hq]
    congr 1
    refine lookup_filter_of_pos (fun x => !p.isPrefixOf x) ?_ _
    rw [Bool.not_eq_true', Bool.eq_false_iff, Ne, List.isPrefixOf_iff_prefix]
    exact hq

/-! ## File systems without holes -/

/-- What there is is in a directory. -/
def Closed (fs : FileSystem) : Prop :=
  ∀ (p : Place) (c : String), (fs.entry? (p ++ [c])).isSome → fs.entry? p = some .directory

/-- Below nothing there is nothing. -/
lemma Closed.below (h : fs.Closed) (hp : fs.entry? p = none) (hq : p <+: q) :
    fs.entry? q = none := by
  obtain ⟨cs, rfl⟩ := hq
  induction cs using List.reverseRecOn with
  | nil => rwa [List.append_nil]
  | append_singleton cs c ih =>
    rcases hc : fs.entry? (p ++ (cs ++ [c])) with _ | e
    · rfl
    · have hd := h (p ++ cs) c (by rw [List.append_assoc, hc]; rfl)
      rw [ih] at hd
      cases hd

lemma Closed.congr {fs' : FileSystem} (h : fs.Closed) (he : ∀ q, fs'.entry? q = fs.entry? q) :
    fs'.Closed := by
  intro p c hs
  rw [he] at hs ⊢
  exact h p c hs

/-- Whether there are holes can be seen from the entries. -/
lemma closed_of_entries (h : ∀ x ∈ fs.entries, fs.entry? x.1.dropLast = some .directory) :
    fs.Closed := by
  intro p c hs
  rw [ entry?, if_neg (by simp), List.lookup_isSome_iff] at hs
  obtain ⟨x, hx, he⟩ := hs
  have hd := h x hx
  rwa [← eq_of_beq he, List.dropLast_concat] at hd

/-- Putting something into a directory leaves no hole. -/
lemma Closed.put {c : String} (h : fs.Closed) (hp : fs.entry? p = some .directory)
    (hc : fs.entry? (p ++ [c]) = none) : (fs.put (p ++ [c]) e).Closed := by
  intro q d hs
  rw [entry?_put (by simp)] at hs ⊢
  split at hs
  · rename_i he
    obtain ⟨rfl, -⟩ := List.append_inj' he rfl
    rw [if_neg (by simp)]
    exact hp
  · have hd := h q d hs
    rw [if_neg ?_]
    · exact hd
    · rintro rfl
      rw [hc] at hd
      cases hd

/-- Removing a place with all that is below it leaves no hole. -/
lemma Closed.removeAll (h : fs.Closed) (hp : p ≠ []) : (fs.removeAll p).Closed := by
  intro q d hs
  rw [entry?_removeAll hp] at hs ⊢
  split at hs
  · cases hs
  · rename_i hn
    rw [if_neg fun hq => hn (hq.trans (List.prefix_append ..))]
    exact h q d hs

/-! ## Walks -/

/-- One piece of a path further. -/
def further (here : Place) (c : String) : Place :=
  if c = "" ∨ c = "." then here else if c = ".." then here.dropLast else here ++ [c]

/-- The places at which the pieces of a path are looked up. -/
def visited (here : Place) : List String → List Place
  | [] => []
  | c :: cs => here :: visited (further here c) cs

lemma visited_append (here : Place) (cs ds : List String) :
    visited here (cs ++ ds) = visited here cs ++ visited (cs.foldl further here) ds := by
  induction cs generalizing here with
  | nil => rfl
  | cons c cs ih => rw [List.cons_append, visited, ih, visited]; rfl

/-- A walk goes well where the places on the way are directories and no piece is too long; where it
ends does not depend on the file system. -/
lemma walk_eq_ok_iff {here : Place} {cs : List String} :
    fs.walk here cs = .ok p ↔
      (∀ v ∈ visited here cs, fs.entry? v = some .directory) ∧
        (∀ c ∈ cs, c.utf8ByteSize ≤ maxNameBytes) ∧ cs.foldl further here = p := by
  induction cs generalizing here with
  | nil => simp [walk, visited]
  | cons c cs ih =>
    rw [walk, visited, List.forall_mem_cons, List.forall_mem_cons, List.foldl_cons]
    split
    · rename_i he
      simp [he]
    · rename_i he
      by_cases hl : maxNameBytes < c.utf8ByteSize
      · simp [hl, Nat.not_le.2 hl]
      · rw [if_neg hl]
        have hf : (if c = "" ∨ c = "." then fs.walk here cs
            else if c = ".." then fs.walk here.dropLast cs else fs.walk (here ++ [c]) cs) =
            fs.walk (further here c) cs := by
          rw [further]
          split
          · rfl
          · split <;> rfl
        rw [hf, ih]
        simp [he, Nat.not_lt.1 hl]
    · rename_i e hne he
      have hd : e ≠ .directory := fun h => hne h
      simp [he, hd]

/-- Where the walk along a path begins. -/
def origin (wd : Place) (path : String) : Place := if Path.isAbsolute path then [] else wd

lemma target_eq_ok_iff :
    fs.target wd path = .ok p ↔
      '\x00' ∉ path.toList ∧ path ≠ "" ∧ path.utf8ByteSize < maxPathBytes ∧
        fs.walk (origin wd path) (Path.pieces path) = .ok p := by
  rw [target, origin]
  by_cases h0 : '\x00' ∈ path.toList
  · simp [h0]
  · by_cases he : path = ""
    · simp [he]
    · by_cases hl : maxPathBytes ≤ path.utf8ByteSize
      · simp [h0, he, hl, Nat.not_lt.2 hl]
      · simp [h0, he, hl, Nat.not_le.1 hl]

lemma find_eq_ok_iff :
    fs.find wd path = .ok (p, e) ↔ fs.target wd path = .ok p ∧ fs.entry? p = some e := by
  rw [find]
  rcases ht : fs.target wd path with f | r
  · simp [bind, Except.bind]
  · dsimp only [bind, Except.bind]
    rcases he : fs.entry? r with _ | x
    · simp only [reduceCtorEq, Except.ok.injEq, false_iff]
      rintro ⟨rfl, h⟩
      rw [he] at h
      cases h
    · simp only [Except.ok.injEq, Prod.mk.injEq]
      constructor
      · rintro ⟨rfl, rfl⟩
        exact ⟨rfl, he⟩
      · rintro ⟨rfl, h⟩
        exact ⟨rfl, Option.some.inj (he.symm.trans h)⟩

/-! ## Paths that stay -/

/-- The places that must be directories for a path to lead to this directory. -/
def route (wd : Place) (path : String) (p : Place) : List Place :=
  visited (origin wd path) (Path.pieces path) ++ [p]

lemma directory_of_mem_route (h : fs.find wd path = .ok (p, .directory)) :
    ∀ v ∈ route wd path p, fs.entry? v = some .directory := by
  obtain ⟨ht, he⟩ := find_eq_ok_iff.1 h
  obtain ⟨-, -, -, hw⟩ := target_eq_ok_iff.1 ht
  intro v hv
  rcases List.mem_append.1 hv with hv | hv
  · exact (walk_eq_ok_iff.1 hw).1 v hv
  · rwa [List.mem_singleton.1 hv]

/-- A path leads to a directory in every file system that has the directories of its route. -/
lemma find_of_route {fs' : FileSystem} (h : fs.find wd path = .ok (p, .directory))
    (hr : ∀ v ∈ route wd path p, fs'.entry? v = some .directory) :
    fs'.find wd path = .ok (p, .directory) := by
  obtain ⟨ht, -⟩ := find_eq_ok_iff.1 h
  obtain ⟨h0, hne, hl, hw⟩ := target_eq_ok_iff.1 ht
  obtain ⟨-, hs, hf⟩ := walk_eq_ok_iff.1 hw
  refine find_eq_ok_iff.2 ⟨target_eq_ok_iff.2 ⟨h0, hne, hl, walk_eq_ok_iff.2 ⟨?_, hs, hf⟩⟩, ?_⟩
  · exact fun v hv => hr v (List.mem_append_left _ hv)
  · exact hr p (List.mem_append_right _ (List.mem_singleton.2 rfl))

/-- Nothing differs, except at a place and below it. -/
def SameOutside (fs : FileSystem) (place : Place) (fs' : FileSystem) : Prop :=
  ∀ q, ¬ place <+: q → fs'.entry? q = fs.entry? q

/-- A path whose route keeps away from a place leads where it did, whatever has happened there. -/
lemma SameOutside.find {fs' : FileSystem} {place : Place} (h : fs.SameOutside place fs')
    (hf : fs.find wd path = .ok (p, .directory)) (hr : ∀ v ∈ route wd path p, ¬ place <+: v) :
    fs'.find wd path = .ok (p, .directory) := by
  refine find_of_route hf fun v hv => ?_
  rw [h v (hr v hv)]
  exact directory_of_mem_route hf v hv

/-- The route of a path keeps away from a place where nothing is. -/
lemma not_prefix_of_mem_route {place : Place} (hc : fs.Closed) (hp : fs.entry? place = none)
    (hf : fs.find wd path = .ok (p, .directory)) : ∀ v ∈ route wd path p, ¬ place <+: v := by
  intro v hv hpre
  have hd := directory_of_mem_route hf v hv
  rw [hc.below hp hpre] at hd
  cases hd

/-- The pieces of a name that is joined to the path of a directory: those before the name lead to
the directory, on the route of its own path. -/
lemma exists_pieces_join {name : String} (h : fs.find wd path = .ok (p, .directory))
    (hn : Path.Plain name) :
    ∃ cs, Path.pieces (Path.join path name) = cs ++ [name] ∧ (∀ c ∈ cs, c ∈ Path.pieces path) ∧
      cs.foldl further (origin wd (Path.join path name)) = p ∧
      ∀ v, v ∈ visited (origin wd (Path.join path name)) (cs ++ [name]) ↔ v ∈ route wd path p := by
  obtain ⟨-, hne, -, hw⟩ := target_eq_ok_iff.1 (find_eq_ok_iff.1 h).1
  obtain ⟨-, -, hf⟩ := walk_eq_ok_iff.1 hw
  obtain ⟨cs, hj, hcs⟩ := Path.pieces_join hne hn
  have ho : origin wd (Path.join path name) = origin wd path := by
    rw [origin, Path.isAbsolute_join hne hn, origin]
  -- the walk along the path itself may end in a piece without characters, which leads nowhere
  have hp : cs.foldl further (origin wd path) = p := by
    rcases hcs with hcs | hcs
    · rw [← hf, hcs]
    · rw [← hf, hcs, List.foldl_append]
      rfl
  refine ⟨cs, hj, fun c hc => ?_, by rw [ho, hp], fun v => ?_⟩
  · rcases hcs with hcs | hcs
    · rwa [hcs]
    · rw [hcs]
      exact List.mem_append_left _ hc
  · rw [ho, visited_append, hp, route]
    rcases hcs with hcs | hcs
    · rw [hcs]
      rfl
    · rw [hcs, visited_append, hp]
      simp only [visited, List.mem_append, List.mem_singleton, or_assoc, or_self]

/-- A name that is joined to the path of a directory leads into that directory. -/
lemma target_join {name : String} (h : fs.find wd path = .ok (p, .directory))
    (hn : Path.Plain name) (hl : name.utf8ByteSize ≤ maxNameBytes)
    (hs : (Path.join path name).utf8ByteSize < maxPathBytes) :
    fs.target wd (Path.join path name) = .ok (p ++ [name]) := by
  obtain ⟨h0, hne, -, hw⟩ := target_eq_ok_iff.1 (find_eq_ok_iff.1 h).1
  obtain ⟨-, hb, -⟩ := walk_eq_ok_iff.1 hw
  obtain ⟨cs, hj, hc, hf, hv⟩ := exists_pieces_join h hn
  have hlist := Path.toList_join path hn
  refine target_eq_ok_iff.2 ⟨?_, ?_, hs, walk_eq_ok_iff.2 ⟨?_, ?_, ?_⟩⟩
  · have := hn.no_nul
    rcases hlist with hlist | hlist <;> rw [hlist] <;> simp [h0, this]
  · intro he
    rw [he] at hlist
    have := hn.ne_empty
    simp [hne, this] at hlist
  · rw [hj]
    exact fun v hm => directory_of_mem_route h v ((hv v).1 hm)
  · rw [hj]
    exact List.forall_mem_append.2 ⟨fun c hm => hb c (hc c hm), List.forall_mem_singleton.2 hl⟩
  · rw [hj, List.foldl_append, hf, List.foldl_cons, List.foldl_nil, further,
      if_neg (not_or.2 ⟨hn.ne_empty, hn.ne_dot⟩), if_neg hn.ne_parent]

/-- If a name that is joined to the path of a directory still leads somewhere, then the path still
leads to the directory. -/
lemma find_of_target_join {fs' : FileSystem} {name : String} {q : Place}
    (h : fs.find wd path = .ok (p, .directory)) (hn : Path.Plain name)
    (ht : fs'.target wd (Path.join path name) = .ok q) :
    fs'.find wd path = .ok (p, .directory) := by
  obtain ⟨-, -, -, hw⟩ := target_eq_ok_iff.1 ht
  obtain ⟨cs, hj, -, -, hv⟩ := exists_pieces_join h hn
  rw [hj] at hw
  exact find_of_route h fun v hm => (walk_eq_ok_iff.1 hw).1 v ((hv v).2 hm)

end FileSystem

end BenchRoster
