import DocSearch.Proofs.Segments
import Mathlib.Data.List.DropRight

/-!
# Addresses of calls

The names in a call become segments at the end of the path of the engine. Escaping loses nothing,
but a name is not only escaped. The names of a place itself and of the one above it are left out,
the marks of lines and columns are dropped, and at the root an empty name is no segment, nor is a
drive what it was. Names without any of this arrive, and only they do.

That a lost name shows is seen from what the pushes leave behind: beyond the path of the engine
there are only segments that read back as names that arrive.
-/

namespace DocSearch

namespace Url

open Http (plainText)

/-! ### Names that arrive -/

/-- Nothing of a name is lost on its way into a path. -/
structure Arrives (name : String) : Prop where
  unmarked : name.toList.any isIgnored = false
  not_here : name ≠ "."
  not_above : name ≠ ".."

/-- A name can be the first of a path. -/
structure Leads (scheme name : String) : Prop where
  not_empty : name ≠ ""
  not_barred : scheme = "file" → withColon name = name

/-- A name without the marks of lines and columns. -/
def visible (name : String) : String := String.ofList (name.toList.filter (!isIgnored ·))

/-- The segments that one more comes after. A path with only an empty one has none. -/
def reached (names : List String) : List String := if names = [""] then [] else names

/-- What a name is written as after some segments. -/
def settled (scheme : String) (before : List String) (name : String) : String :=
  if scheme = "file" ∧ before = [] then withColon name else name

section Names

variable {scheme name : String} {before : List String}

theorem arrives_empty : Arrives "" := ⟨by decide, by decide, by decide⟩

theorem Arrives.isIgnored_eq_false (h : Arrives name) : ∀ c ∈ name.toList, isIgnored c = false :=
  fun c hc => Bool.eq_false_iff.mpr (List.any_eq_false.mp h.unmarked c hc)

theorem withColon_eq_or (name : String) : withColon name = name ∨ ∃ c, c.isAlpha = true ∧
    name = String.ofList [c, '|'] ∧ withColon name = String.ofList [c, ':'] := by
  by_cases hdrive : ∃ c, c.isAlpha = true ∧ name = String.ofList [c, '|']
  · obtain ⟨c, halpha, rfl⟩ := hdrive
    exact Or.inr ⟨c, halpha, rfl, withColon_ofList halpha⟩
  · exact Or.inl (withColon_eq_self fun c halpha hc => hdrive ⟨c, halpha, hc⟩)

theorem Arrives.withColon (h : Arrives name) : Arrives (withColon name) := by
  rcases withColon_eq_or name with hname | ⟨c, -, rfl, hname⟩
  · rwa [hname]
  · have hc : isIgnored c = false := h.isIgnored_eq_false c (by simp)
    rw [hname]
    refine ⟨?_, fun hdot => ?_, fun hdots => ?_⟩
    · rw [String.toList_ofList, List.any_cons, hc]
      rfl
    · have hlist := congrArg String.toList hdot
      rw [String.toList_ofList] at hlist
      cases hlist
    · have hlist := congrArg String.toList hdots
      rw [String.toList_ofList] at hlist
      cases hlist

theorem Arrives.settled (h : Arrives name) (scheme : String) (before : List String) :
    Arrives (settled scheme before name) := by
  unfold Url.settled
  split
  · exact h.withColon
  · exact h

theorem Leads.settled (h : Leads scheme name) (before : List String) :
    settled scheme before name = name := by
  unfold Url.settled
  split
  · next hroot => exact h.not_barred hroot.1
  · rfl

theorem extend_segmentOf (scheme : String) (before : List String) (name : String) :
    extend scheme before (segmentOf scheme name) =
      before ++ [segmentOf scheme (settled scheme before name)] := by
  unfold extend settled
  split
  · rw [withColon_segmentOf]
  · rfl

theorem reached_isPrefixOf (names : List String) : reached names <+: names := by
  unfold reached
  split
  · exact List.nil_prefix
  · exact List.prefix_rfl

theorem above_isPrefixOf (names : List String) : above names <+: names := by
  unfold above
  split
  · split
    · exact List.prefix_rfl
    · exact List.dropLast_prefix names
  · exact List.nil_prefix

theorem plainText_of_isDoubleDot {piece : String} (h : isDoubleDot piece = true) :
    plainText piece = some ".." := by
  have hbytes : unescape piece.toList = ['.', '.'].flatMap String.utf8EncodeChar := by
    simp only [isDoubleDot, List.contains_iff_mem, List.mem_cons, List.not_mem_nil, or_false] at h
    rcases h with rfl | rfl | rfl | rfl | rfl | rfl | rfl | rfl | rfl <;> rfl
  rw [plainText, hbytes, textOfBytes_utf8]

theorem plainText_of_isSingleDot {piece : String} (h : isSingleDot piece = true) :
    plainText piece = some "." := by
  have hbytes : unescape piece.toList = ['.'].flatMap String.utf8EncodeChar := by
    simp only [isSingleDot, Bool.or_eq_true, beq_iff_eq] at h
    rcases h with (rfl | rfl) | rfl <;> rfl
  rw [plainText, hbytes, textOfBytes_utf8]

theorem notDots_of_arrives (h : Arrives name) (scheme : String) :
    isDoubleDot (segmentOf scheme name) = false ∧ isSingleDot (segmentOf scheme name) = false := by
  refine ⟨Bool.eq_false_iff.mpr fun hdots => ?_, Bool.eq_false_iff.mpr fun hdot => ?_⟩
  · have hname := plainText_of_isDoubleDot hdots
    rw [plainText_segmentOf] at hname
    exact h.not_above (Option.some.inj hname)
  · have hname := plainText_of_isSingleDot hdot
    rw [plainText_segmentOf] at hname
    exact h.not_here (Option.some.inj hname)

/-- A name that arrives is one more segment. -/
theorem pushName_of_arrives (h : Arrives name) (scheme : String) (names : List String) :
    pushName scheme names name =
      reached names ++ [segmentOf scheme (settled scheme (reached names) name)] := by
  obtain ⟨hdots, hdot⟩ := notDots_of_arrives h scheme
  have hkept : name.toList.filter (fun c => !isIgnored c) = name.toList :=
    List.filter_eq_self.mpr fun c hc => by rw [h.isIgnored_eq_false c hc]; rfl
  have hsegment : escape (inSegment (isSpecial scheme)) name.toList = segmentOf scheme name := rfl
  rw [← extend_segmentOf, pushName, if_neg (not_or.mpr ⟨h.not_here, h.not_above⟩)]
  simp only [hkept, hsegment, hdots, hdot, Bool.false_eq_true, if_false]
  rfl

theorem segmentOf_dots (scheme : String) :
    segmentOf scheme "." = "." ∧ segmentOf scheme ".." = ".." := by
  have hdot (special : Bool) : '.'.toNat < 128 ∧ inSegment special '.' = false := by
    cases special <;> decide
  refine ⟨segmentOf_ofList (List.forall_mem_singleton.mpr (hdot _)), ?_⟩
  exact segmentOf_ofList (List.forall_mem_cons.mpr
    ⟨hdot _, List.forall_mem_singleton.mpr (hdot _)⟩)

theorem arrives_visible (hdots : isDoubleDot (segmentOf scheme (visible name)) = false)
    (hdot : isSingleDot (segmentOf scheme (visible name)) = false) : Arrives (visible name) := by
  refine ⟨?_, fun hname => ?_, fun hname => ?_⟩
  · rw [visible, String.toList_ofList, List.any_filter]
    simp
  · rw [hname, (segmentOf_dots scheme).1] at hdot
    cases hdot
  · rw [hname, (segmentOf_dots scheme).2] at hdots
    cases hdots

/-- All that a push can do: leave the segments as they are, or put one that reads back as a name of
the kind that arrives after some of them. -/
theorem pushName_eq_or (scheme : String) (names : List String) (name : String) :
    pushName scheme names name = names ∨ ∃ kept piece, kept <+: names ∧ Arrives piece ∧
      pushName scheme names name = kept ++ [segmentOf scheme piece] := by
  by_cases hname : name = "." ∨ name = ".."
  · exact Or.inl (if_pos hname)
  · refine Or.inr ?_
    have hsegment : escape (inSegment (isSpecial scheme)) (name.toList.filter (!isIgnored ·)) =
        segmentOf scheme (visible name) := by
      rw [visible, segmentOf, String.toList_ofList]
    rw [pushName, if_neg hname]
    dsimp only
    rw [hsegment]
    -- without its marks a name may be one of those of the place itself and of the one above it
    by_cases hdots : isDoubleDot (segmentOf scheme (visible name)) = true
    · rw [if_pos hdots]
      exact ⟨_, "", (above_isPrefixOf _).trans (reached_isPrefixOf names), arrives_empty, rfl⟩
    · by_cases hdot : isSingleDot (segmentOf scheme (visible name)) = true
      · rw [if_neg hdots, if_pos hdot]
        exact ⟨_, "", reached_isPrefixOf names, arrives_empty, rfl⟩
      · rw [if_neg hdots, if_neg hdot]
        have harrives : Arrives (visible name) :=
          arrives_visible (Bool.eq_false_iff.mpr hdots) (Bool.eq_false_iff.mpr hdot)
        exact ⟨_, _, reached_isPrefixOf names, harrives.settled scheme (reached names),
          extend_segmentOf scheme (reached names) (visible name)⟩

end Names

/-! ### Paths -/

/-- The segments of a path that names are added to. -/
def root (names : List String) : List String := reached (dropEmptyEnd names)

/-- The segments of a path without the slashes at its end. -/
def stem (names : List String) : List String := names.rdropWhile (· == "")

section Paths

variable {scheme : String} {names added kept : List String} {n : Nat}

/-- Beyond some length there are only segments that read back as names that arrive. -/
def SoundBeyond (n : Nat) (names : List String) : Prop :=
  ∀ piece ∈ names.drop n, ∃ name, Arrives name ∧ plainText piece = some name

theorem SoundBeyond.of_prefix (h : SoundBeyond n names) (hkept : kept <+: names) :
    SoundBeyond n kept := by
  obtain ⟨rest, rfl⟩ := hkept
  intro piece hpiece
  exact h piece (by rw [List.drop_append]; exact List.mem_append_left _ hpiece)

theorem SoundBeyond.pushName (h : SoundBeyond n names) (name : String) :
    SoundBeyond n (pushName scheme names name) := by
  rcases pushName_eq_or scheme names name with hsame | ⟨kept, shown, hkept, hshown, hpush⟩
  · rwa [hsame]
  · rw [hpush]
    intro piece hpiece
    rw [List.drop_append, List.mem_append] at hpiece
    rcases hpiece with hpiece | hpiece
    · exact h.of_prefix hkept piece hpiece
    · obtain rfl := List.mem_singleton.mp (List.mem_of_mem_drop hpiece)
      exact ⟨shown, hshown, plainText_segmentOf scheme shown⟩

theorem SoundBeyond.foldl_pushName (h : SoundBeyond n names) (added : List String) :
    SoundBeyond n (added.foldl (Url.pushName scheme) names) := by
  induction added generalizing names with
  | nil => exact h
  | cons name added ih => exact ih (h.pushName name)

theorem length_pushName_le (scheme : String) (names : List String) (name : String) :
    (pushName scheme names name).length ≤ names.length + 1 := by
  rcases pushName_eq_or scheme names name with hsame | ⟨kept, shown, hkept, -, hpush⟩
  · rw [hsame]
    exact Nat.le_succ _
  · rw [hpush, List.length_append, List.length_singleton]
    exact Nat.succ_le_succ hkept.length_le

theorem length_foldl_pushName_le (added names : List String) :
    (added.foldl (pushName scheme) names).length ≤ names.length + added.length := by
  induction added generalizing names with
  | nil => exact Nat.le_refl _
  | cons name added ih =>
    have hfirst := length_pushName_le scheme names name
    have hrest := ih (pushName scheme names name)
    rw [List.foldl_cons, List.length_cons]
    omega

/-- After a first segment that is not empty, names that arrive are segments one by one. -/
theorem foldl_pushName_of_arrives (hkept : kept ≠ [] ∧ kept ≠ [""])
    (h : ∀ name ∈ added, Arrives name) :
    added.foldl (pushName scheme) kept = kept ++ added.map (segmentOf scheme) := by
  induction added generalizing kept with
  | nil => exact (List.append_nil kept).symm
  | cons name added ih =>
    obtain ⟨hname, hadded⟩ := List.forall_mem_cons.mp h
    have hreached : reached kept = kept := if_neg hkept.2
    have hsettled : settled scheme kept name = name := if_neg fun hroot => hkept.1 hroot.2
    have hnext : kept ++ [segmentOf scheme name] ≠ [] ∧ kept ++ [segmentOf scheme name] ≠ [""] := by
      refine ⟨List.append_ne_nil_of_right_ne_nil _ (List.cons_ne_nil _ _), fun hsingle => ?_⟩
      have hlength := congrArg List.length hsingle
      rw [List.length_append] at hlength
      exact hkept.1 (List.eq_nil_of_length_eq_zero (by simpa using hlength))
    rw [List.foldl_cons, pushName_of_arrives hname, hreached, hsettled, ih hnext hadded,
      List.append_assoc, List.map_cons, List.singleton_append]

theorem dropEmptyEnd_concat_or (names : List String) :
    dropEmptyEnd names = names ∨ names = dropEmptyEnd names ++ [""] := by
  unfold dropEmptyEnd
  split
  · next hend =>
    refine Or.inr ?_
    exact (List.dropLast_append_getLast? "" (Option.mem_def.mpr hend.2)).symm
  · exact Or.inl rfl

theorem stem_dropEmptyEnd (names : List String) : stem (dropEmptyEnd names) = stem names := by
  rcases dropEmptyEnd_concat_or names with hsame | hconcat
  · rw [hsame]
  · have hstem : stem names = stem (dropEmptyEnd names ++ [""]) := by rw [← hconcat]
    rw [hstem, stem, stem, List.rdropWhile_concat_pos _ _ _ rfl]

theorem stem_prefix_root (names : List String) : stem names <+: root names := by
  rw [← stem_dropEmptyEnd, root, reached]
  split
  · next hempty => rw [hempty]; exact List.prefix_rfl
  · exact List.rdropWhile_prefix _ _

theorem soundBeyond_stem (names : List String) :
    SoundBeyond (stem names).length (dropEmptyEnd names) := by
  have hsplit : stem names ++ (dropEmptyEnd names).rtakeWhile (· == "") = dropEmptyEnd names := by
    rw [← stem_dropEmptyEnd]
    exact List.rdropWhile_append_rtakeWhile
  intro piece hpiece
  rw [← hsplit, List.drop_left] at hpiece
  have hempty : (piece == "") = true :=
    @List.mem_rtakeWhile_imp String (· == "") (dropEmptyEnd names) piece hpiece
  rw [eq_of_beq hempty]
  exact ⟨"", arrives_empty, plainText_segmentOf "" ""⟩

theorem dropEmptyEnd_of_root_ne_nil (h : root names ≠ []) :
    dropEmptyEnd names = root names ∧ root names ≠ [""] := by
  have hkept : dropEmptyEnd names ≠ [""] := fun hempty => h (if_pos hempty)
  have hroot : root names = dropEmptyEnd names := if_neg hkept
  exact ⟨hroot.symm, hroot ▸ hkept⟩

variable {first second : String} {rest : List String}

/-- What a name at the root becomes, with those after it, unless it is written as an empty one. -/
theorem foldl_pushName_of_root (hroot : root names = [])
    (harrives : ∀ name ∈ first :: rest, Arrives name) (hshown : settled scheme [] first ≠ "") :
    (first :: rest).foldl (pushName scheme) (dropEmptyEnd names) =
      (settled scheme [] first :: rest).map (segmentOf scheme) := by
  have hreached : reached (dropEmptyEnd names) = [] := hroot
  obtain ⟨hfirst, hrest⟩ := List.forall_mem_cons.mp harrives
  rw [List.foldl_cons, pushName_of_arrives hfirst, hreached, List.nil_append,
    foldl_pushName_of_arrives ⟨List.cons_ne_nil _ _, fun hempty => hshown ?_⟩ hrest]
  · rfl
  · exact segmentOf_injective (List.singleton_inj.mp hempty)

theorem foldl_pushName_of_leads (harrives : ∀ name ∈ first :: rest, Arrives name)
    (hleads : root names = [] → Leads scheme first) :
    (first :: rest).foldl (pushName scheme) (dropEmptyEnd names) =
      root names ++ (first :: rest).map (segmentOf scheme) := by
  by_cases hroot : root names = []
  · have hsettled : settled scheme [] first = first := (hleads hroot).settled []
    have hshown : settled scheme [] first ≠ "" := by
      rw [hsettled]
      exact (hleads hroot).not_empty
    rw [foldl_pushName_of_root hroot harrives hshown, hsettled, hroot, List.nil_append]
  · obtain ⟨hkept, hnonempty⟩ := dropEmptyEnd_of_root_ne_nil hroot
    rw [hkept, foldl_pushName_of_arrives ⟨hroot, hnonempty⟩ harrives]

/-- An empty name at the root makes room for the next one. -/
theorem length_foldl_pushName_of_empty (hroot : root names = [])
    (harrives : ∀ name ∈ first :: second :: rest, Arrives name)
    (hshown : settled scheme [] first = "") :
    ((first :: second :: rest).foldl (pushName scheme) (dropEmptyEnd names)).length ≤
      rest.length + 1 := by
  have hreached : reached (dropEmptyEnd names) = [] := hroot
  have hempty : [segmentOf scheme ""] = [""] := rfl
  have hagain : reached [""] = [] := rfl
  obtain ⟨hfirst, hothers⟩ := List.forall_mem_cons.mp harrives
  obtain ⟨hsecond, -⟩ := List.forall_mem_cons.mp hothers
  rw [List.foldl_cons, List.foldl_cons, pushName_of_arrives hfirst, hreached, hshown,
    List.nil_append, hempty, pushName_of_arrives hsecond, hagain, List.nil_append]
  refine (length_foldl_pushName_le rest _).trans ?_
  rw [List.length_singleton, Nat.add_comm]

section Read

variable {pieces : List String}

/-- Names that are read back from segments beyond the path arrive, since there are no others. -/
theorem arrives_of_read
    (hpath : added.foldl (pushName scheme) (dropEmptyEnd names) = stem names ++ pieces)
    (hplain : pieces.map plainText = added.map some) : ∀ name ∈ added, Arrives name := by
  intro name hname
  have hshown : some name ∈ pieces.map plainText := by
    rw [hplain]
    exact List.mem_map_of_mem hname
  obtain ⟨piece, hpiece, hread⟩ := List.mem_map.mp hshown
  have hbeyond : piece ∈ (stem names ++ pieces).drop (stem names).length := by
    rwa [List.drop_left]
  rw [← hpath] at hbeyond
  obtain ⟨name', harrives, hread'⟩ := (soundBeyond_stem names).foldl_pushName added piece hbeyond
  rwa [Option.some.inj (hread.symm.trans hread')]

theorem leads_of_read (hroot : root names = [])
    (harrives : ∀ name ∈ first :: second :: rest, Arrives name)
    (hpath : (first :: second :: rest).foldl (pushName scheme) (dropEmptyEnd names) = pieces)
    (hplain : pieces.map plainText = (first :: second :: rest).map some) :
    Leads scheme first := by
  -- an empty first name would show in the number of segments
  have hshown : settled scheme [] first ≠ "" := by
    intro hshown
    have hlength : pieces.length = rest.length + 2 := by simpa using congrArg List.length hplain
    have hshort := length_foldl_pushName_of_empty hroot harrives hshown
    rw [hpath] at hshort
    omega
  rw [← hpath, foldl_pushName_of_root hroot harrives hshown, List.map_map] at hplain
  have hsettled : settled scheme [] first = first := by
    have hread := (List.cons.inj hplain).1
    rw [Function.comp_apply, plainText_segmentOf] at hread
    exact Option.some.inj hread
  refine ⟨hsettled ▸ hshown, fun hfile => ?_⟩
  rwa [settled, if_pos ⟨hfile, rfl⟩] at hsettled

end Read

/-- Added names are found behind the path exactly if they arrive, the first one can lead where it
has to, and the path has at most one slash at its end beyond that of the root. -/
theorem foldl_pushName_iff :
    (∃ pieces, (first :: second :: rest).foldl (pushName scheme) (dropEmptyEnd names) =
        stem names ++ pieces ∧
      pieces.map plainText = (first :: second :: rest).map some) ↔
    root names = stem names ∧ (∀ name ∈ first :: second :: rest, Arrives name) ∧
      (root names = [] → Leads scheme first) := by
  constructor
  · rintro ⟨pieces, hpath, hplain⟩
    have harrives := arrives_of_read hpath hplain
    by_cases hroot : root names = []
    · have hstem : stem names = [] := List.prefix_nil.mp (hroot ▸ stem_prefix_root names)
      rw [hstem, List.nil_append] at hpath
      exact ⟨hroot.trans hstem.symm, harrives, fun _ => leads_of_read hroot harrives hpath hplain⟩
    · refine ⟨?_, harrives, fun hempty => absurd hempty hroot⟩
      -- all names are pushed one by one, so what comes before them is as long as it should be
      rw [foldl_pushName_of_leads harrives fun hempty => absurd hempty hroot] at hpath
      have hlengths := congrArg List.length hpath
      have hpieces := congrArg List.length hplain
      rw [List.length_map, List.length_map] at hpieces
      rw [List.length_append, List.length_append, List.length_map, hpieces] at hlengths
      have hsame : (stem names).length = (root names).length := (Nat.add_right_cancel hlengths).symm
      exact ((stem_prefix_root names).eq_of_length hsame).symm
  · rintro ⟨hstem, harrives, hleads⟩
    refine ⟨(first :: second :: rest).map (segmentOf scheme), ?_, ?_⟩
    · rw [foldl_pushName_of_leads harrives hleads, hstem]
    · rw [List.map_map]
      refine List.map_congr_left fun name _ => ?_
      rw [Function.comp_apply, plainText_segmentOf]

end Paths

end Url

namespace Http

/-- The names that the path of a call ends in. -/
def pathNames (index : String) : Request → List String
  | .search _ => [index, "_search"]
  | .count _ => [index, "_count"]
  | .get id => [index, "_doc", id]
  | .bulk _ _ => [index, "_bulk"]
  | .updateByQuery _ _ => [index, "_update_by_query"]
  | .deleteByQuery _ _ => [index, "_delete_by_query"]

theorem path_message (base : Base) (index : String) (r : Request) :
    (message base index r).url.path = .segments ((pathNames index r).foldl
      (Url.pushName base.address.scheme) (Url.dropEmptyEnd base.address.path.names)) := by
  cases r <;> rfl

theorem authority_message (base : Base) (index : String) (r : Request) :
    (message base index r).url.authority = base.address.authority := by
  cases r <;> rfl

theorem path_addressed (m : Message) : m.addressed.url.path = m.url.path := by
  unfold Message.addressed
  split <;> rfl

theorem pathText_addressed (m : Message) : m.addressed.url.pathText = m.url.pathText := by
  unfold Message.addressed
  split
  · rfl
  · dsimp only [Url.Address.withoutUser, Url.Address.pathText]
    cases m.url.authority <;> rfl

/-- The names in the path of a call all arrive, and the index can come first where it does. -/
structure Addressable (base : Base) (index : String) (r : Request) : Prop where
  arrives : ∀ name ∈ pathNames index r, Url.Arrives name
  leads : Url.root base.address.path.names = [] → Url.Leads base.address.scheme index

section Addressable

variable {base : Base} {index : String} {r : Request}

theorem pathNames_eq_cons (index : String) (r : Request) :
    ∃ second rest, pathNames index r = index :: second :: rest := by
  cases r <;> exact ⟨_, _, rfl⟩

theorem Addressable.path (h : Addressable base index r) :
    (message base index r).url.path = .segments (Url.root base.address.path.names ++
      (pathNames index r).map (Url.segmentOf base.address.scheme)) := by
  obtain ⟨second, rest, hnames⟩ := pathNames_eq_cons index r
  have harrives := h.arrives
  rw [hnames] at harrives
  rw [path_message, hnames, Url.foldl_pushName_of_leads harrives h.leads]

/-- Whether two slashes at the beginning are set off depends on the engine only. -/
theorem Addressable.pathText (h : Addressable base index r) :
    (message base index r).url.pathText =
      (if base.address.authority = none ∧ (Url.root base.address.path.names).head? = some ""
        then "/." else "") ++
      Url.Path.segmentsText (Url.root base.address.path.names ++
        (pathNames index r).map (Url.segmentOf base.address.scheme)) := by
  obtain ⟨second, rest, hnames⟩ := pathNames_eq_cons index r
  have hlength : 2 ≤ (Url.root base.address.path.names ++
      (pathNames index r).map (Url.segmentOf base.address.scheme)).length := by
    rw [hnames, List.length_append, List.length_map, List.length_cons, List.length_cons]
    omega
  have hhead : (Url.root base.address.path.names ++
      (pathNames index r).map (Url.segmentOf base.address.scheme)).head? = some "" ↔
        (Url.root base.address.path.names).head? = some "" := by
    cases hroot : Url.root base.address.path.names with
    | nil =>
      rw [hnames, List.nil_append, List.map_cons, List.head?_cons, List.head?_nil]
      refine iff_of_false (fun hempty => (h.leads hroot).not_empty ?_) nofun
      exact Url.segmentOf_injective (Option.some.inj hempty)
    | cons first rest => rfl
  rw [Url.pathText_of_segments h.path hlength, authority_message]
  simp only [hhead]

theorem Addressable.pathNames_injective {index' : String} {r' : Request}
    (h : Addressable base index r) (h' : Addressable base index' r')
    (hsame : (message base index r).url.pathText = (message base index' r').url.pathText) :
    pathNames index r = pathNames index' r' := by
  have hfree (names : List String) :
      ∀ name ∈ names.map (Url.segmentOf base.address.scheme), '/' ∉ name.toList := by
    intro name hname
    obtain ⟨own, -, rfl⟩ := List.mem_map.mp hname
    exact Url.slash_not_mem_segmentOf base.address.scheme own
  rw [h.pathText, h'.pathText, String.append_right_inj] at hsame
  have hsegments := Url.segmentsText_append_injective (hfree _) (hfree _) hsame
  exact List.map_injective_iff.mpr Url.segmentOf_injective hsegments

/-- **A call reaches what it names exactly if the names arrive.** For every engine, index and call:
the path of the message is that of the engine, without the slashes at its end, followed by segments
that read back as the index and what belongs to the call (`_doc` and the id, or the action), exactly
if the path of the engine has at most one slash at its end beyond that of the root, none of the
names is a dot or two or has a mark of lines or columns, and an index that comes first in the path
is neither empty nor, in a file, a drive with a bar. Among such calls the text of the path
determines the names, so no two of them with another index or id go to the same place. -/
theorem message_path_iff (base : Base) (index : String) (r : Request) :
    ((∃ pieces, (message base index r).addressed.url.path =
          .segments (Url.stem base.address.path.names ++ pieces) ∧
        pieces.map plainText = (pathNames index r).map some) ↔
      Url.root base.address.path.names = Url.stem base.address.path.names ∧
        Addressable base index r) ∧
    ∀ index' r', Addressable base index r → Addressable base index' r' →
      (message base index r).addressed.url.pathText =
        (message base index' r').addressed.url.pathText →
      pathNames index r = pathNames index' r' := by
  refine ⟨?_, fun index' r' h h' hsame => ?_⟩
  · obtain ⟨second, rest, hnames⟩ := pathNames_eq_cons index r
    have haddressable : Addressable base index r ↔
        (∀ name ∈ index :: second :: rest, Url.Arrives name) ∧
          (Url.root base.address.path.names = [] → Url.Leads base.address.scheme index) := by
      rw [← hnames]
      exact ⟨fun h => ⟨h.arrives, h.leads⟩, fun h => ⟨h.1, h.2⟩⟩
    rw [path_addressed, path_message, hnames, haddressable, ← Url.foldl_pushName_iff]
    simp only [Url.Path.segments.injEq]
  · rw [pathText_addressed, pathText_addressed] at hsame
    exact h.pathNames_injective h' hsame

end Addressable

/-- An engine on this machine. -/
def localBase : Base where
  address := ⟨"http", some ⟨"", "", .domain "localhost", some 9200⟩, .segments [""], none, none⟩
  hierarchical := rfl

/-- Names with slashes, percent signs and characters beyond ASCII reach the document, and there is
no other pair of names for its place. -/
theorem message_path_local :
    (∃ pieces, (message localBase "a/b c" (.get "50% ünï/..")).addressed.url.path =
        .segments pieces ∧
      pieces.map plainText = ["a/b c", "_doc", "50% ünï/.."].map some) ∧
    ∀ index id, Addressable localBase index (.get id) →
      (message localBase "a/b c" (.get "50% ünï/..")).addressed.url.pathText =
        (message localBase index (.get id)).addressed.url.pathText →
      ["a/b c", "_doc", "50% ünï/.."] = [index, "_doc", id] := by
  have haddressable : Addressable localBase "a/b c" (.get "50% ünï/..") := by
    refine ⟨?_, fun _ => ⟨by decide, fun hfile => absurd hfile (by decide)⟩⟩
    rw [pathNames, List.forall_mem_cons, List.forall_mem_cons, List.forall_mem_singleton]
    exact ⟨⟨by decide, by decide, by decide⟩, ⟨by decide, by decide, by decide⟩,
      ⟨by decide, by decide, by decide⟩⟩
  obtain ⟨hpath, hinjective⟩ := message_path_iff localBase "a/b c" (.get "50% ünï/..")
  exact ⟨hpath.mpr ⟨rfl, haddressable⟩, fun index id => hinjective index (.get id) haddressable⟩

/-- At an address that is accepted: without an id that arrives the message goes to all documents of
the index or to another one, and without an index that does it goes to all indices. -/
theorem message_path_lost :
    (Base.parse "http://localhost:9200/").toOption.map Base.address = some localBase.address ∧
    (message localBase "models" (.get "..")).url.path = .segments ["models", "_doc"] ∧
    (message localBase "models" (.get "a\tb")).url = (message localBase "models" (.get "ab")).url ∧
    ∀ query, (message localBase ".." (.count query)).url.path = .segments ["_count"] ∧
      (message localBase "" (.count query)).url.path = .segments ["_count"] := by
  refine ⟨by decide +kernel, by decide +kernel, by decide +kernel, fun query => ?_⟩
  rw [path_message, path_message, pathNames, pathNames]
  exact ⟨by decide +kernel, by decide +kernel⟩

end Http

end DocSearch
