import Mathlib.Data.List.DropRight
import TankArena.Text.Lines
import TankArena.Text.Path

/-!
# Paths that are written and read back

A path that was read is normal: none of its names is empty or a single dot. Normal paths are written
and read back. A file name is cut before its last dot, and what is appended to a text goes to the
last name of its path or is a name of its own.
-/

namespace TankArena.Text

variable {t name s e x : List Char}

/-! ## Stem and suffix -/

/-- A file name in its stem and its suffix. The suffix starts at the last dot of the name, but a dot
that is its first or its last character starts none. -/
inductive IsSplit (name : List Char) : (stem suffix : List Char) → Prop
  | dotted {s e : List Char} : name = s ++ '.' :: e → s ≠ [] → e ≠ [] → '.' ∉ e →
      IsSplit name s ('.' :: e)
  | plain : (∀ s e, name = s ++ '.' :: e → '.' ∉ e → s = [] ∨ e = []) → IsSplit name name []

theorem IsSplit.append_eq (h : IsSplit name s x) : s ++ x = name := by
  cases h with
  | dotted heq => exact heq.symm
  | plain => exact List.append_nil _

theorem exists_isSplit (name : List Char) : ∃ s x, IsSplit name s x := by
  by_cases h : ∃ s e, name = s ++ '.' :: e ∧ '.' ∉ e ∧ ¬ (s = [] ∨ e = [])
  · obtain ⟨s, e, heq, he, hends⟩ := h
    rw [not_or] at hends
    exact ⟨s, '.' :: e, .dotted heq hends.1 hends.2 he⟩
  · refine ⟨name, [], .plain fun s e heq he => ?_⟩
    by_contra hends
    exact h ⟨s, e, heq, he, hends⟩

theorem splitSuffix_of_last (he : '.' ∉ e) : splitSuffix (s ++ '.' :: e) =
    if s = [] ∨ e = [] then (s ++ '.' :: e, []) else (s, '.' :: e) := by
  have hchars : ∀ c ∈ e.reverse, decide (c ≠ '.') = true := fun c hc =>
    decide_eq_true fun h => he (h ▸ List.mem_reverse.mp hc)
  have hrev : (s ++ '.' :: e).reverse = e.reverse ++ '.' :: s.reverse := by simp
  rw [splitSuffix, hrev, List.takeWhile_append_of_pos hchars, List.dropWhile_append_of_pos hchars]
  induction s using List.reverseRecOn with
  | nil => simp
  | append_singleton s c => by_cases h : e = [] <;> simp [h]

theorem splitSuffix_of_notMem (h : '.' ∉ name) : splitSuffix name = (name, []) := by
  have hnil : name.reverse.dropWhile (· ≠ '.') = [] :=
    List.dropWhile_eq_nil_iff.mpr fun c hc =>
      decide_eq_true fun heq => h (heq ▸ List.mem_reverse.mp hc)
  rw [splitSuffix, hnil]
  rfl

theorem IsSplit.splitSuffix_eq (h : IsSplit name s x) : splitSuffix name = (s, x) := by
  cases h with
  | dotted heq hs he hdot => rw [heq, splitSuffix_of_last hdot, if_neg (not_or.mpr ⟨hs, he⟩)]
  | plain hname =>
      by_cases hmem : '.' ∈ name
      · obtain ⟨u, v, rfl, hv⟩ := exists_last_of_mem hmem
        rw [splitSuffix_of_last hv, if_pos (hname u v rfl hv)]
      · exact splitSuffix_of_notMem hmem

theorem isSplit_iff : IsSplit name s x ↔ s = stem name ∧ x = suffix name := by
  constructor
  · intro h
    rw [stem, suffix, h.splitSuffix_eq]
    exact ⟨rfl, rfl⟩
  · rintro ⟨rfl, rfl⟩
    obtain ⟨s, x, h⟩ := exists_isSplit name
    rwa [stem, suffix, h.splitSuffix_eq]

theorem stem_append_suffix (name : List Char) : stem name ++ suffix name = name :=
  (isSplit_iff.mpr ⟨rfl, rfl⟩).append_eq

/-! ## Normal paths -/

namespace Path

/-- The directory of a path. -/
def parent (p : Path) : Path := { p with parts := p.parts.dropLast }

/-- A path in the form in which paths are read. -/
structure IsNormal (p : Path) : Prop where
  root : p.root = [] ∨ p.root = ['/'] ∨ p.root = ['/', '/']
  parts : ∀ q ∈ p.parts, q ≠ [] ∧ q ≠ ['.'] ∧ '/' ∉ q

variable {p : Path} {q : List Char}

theorem mem_parts_ofChars :
    q ∈ (ofChars t).parts ↔ q ∈ t.splitOn '/' ∧ q ≠ [] ∧ q ≠ ['.'] := by
  simp [ofChars]

theorem isNormal_ofChars (t : List Char) : (ofChars t).IsNormal := by
  refine ⟨?_, fun q hq => ?_⟩
  · change rootOf t = [] ∨ rootOf t = ['/'] ∨ rootOf t = ['/', '/']
    unfold rootOf
    split <;> simp
  · obtain ⟨hmem, hne, hdot⟩ := mem_parts_ofChars.mp hq
    exact ⟨hne, hdot, fun hslash => (mem_splitOn hmem _ hslash).1 rfl⟩

theorem IsNormal.sibling (h : p.IsNormal) (hne : q ≠ []) (hdot : q ≠ ['.']) (hslash : '/' ∉ q) :
    (p.sibling q).IsNormal := by
  refine ⟨h.root, fun r hr => ?_⟩
  rcases List.mem_append.mp hr with hr | hr
  · exact h.parts r (List.dropLast_subset _ hr)
  · rw [List.mem_singleton.mp hr]
    exact ⟨hne, hdot, hslash⟩

theorem parts_ofChars_slash (t : List Char) : (ofChars ('/' :: t)).parts = (ofChars t).parts := by
  simp [ofChars, splitOn_cons]

theorem IsNormal.parts_ofChars_append (h : p.IsNormal) (t : List Char) :
    (ofChars (p.root ++ t)).parts = (ofChars t).parts := by
  rcases h.root with hr | hr | hr <;> simp [hr, parts_ofChars_slash]

theorem IsNormal.parts_ofChars (h : p.IsNormal) :
    (ofChars (['/'].intercalate p.parts)).parts = p.parts := by
  cases hp : p.parts with
  | nil => rfl
  | cons q qs =>
      have hslash : ∀ r ∈ q :: qs, '/' ∉ r := fun r hr => (h.parts r (hp ▸ hr)).2.2
      have hkept : ∀ r ∈ q :: qs, (decide (r ≠ []) && decide (r ≠ ['.'])) = true := fun r hr => by
        have := h.parts r (hp ▸ hr)
        simp [this.1, this.2.1]
      rw [ofChars, List.splitOn_intercalate '/' hslash (List.cons_ne_nil q qs)]
      exact List.filter_eq_self.mpr hkept

/-- The names are not empty and without slashes, so the root is read back as it is. -/
theorem IsNormal.rootOf_eq (h : p.IsNormal) :
    rootOf (p.root ++ ['/'].intercalate p.parts) = p.root := by
  have hfirst : ∀ r, ['/'].intercalate p.parts ≠ '/' :: r := by
    intro r heq
    cases hp : p.parts with
    | nil => rw [hp] at heq; cases heq
    | cons q qs =>
        obtain ⟨hne, -, hslash⟩ := h.parts q (by simp [hp])
        obtain ⟨c, q, rfl⟩ := List.exists_cons_of_ne_nil hne
        have hc : c = '/' := by
          cases qs <;> simp [hp, List.intercalate_cons_cons] at heq <;> exact heq.1
        exact hslash (by simp [hc])
  generalize ['/'].intercalate p.parts = u at hfirst
  cases u with
  | nil => rcases h.root with hr | hr | hr <;> rw [hr] <;> rfl
  | cons c u =>
      have hc : c ≠ '/' := fun hc => hfirst u (hc ▸ rfl)
      rcases h.root with hr | hr | hr <;> simp [hr, rootOf, hc]

theorem IsNormal.ofChars_toChars (h : p.IsNormal) : ofChars p.toChars = p := by
  have hparts := (h.parts_ofChars_append (['/'].intercalate p.parts)).trans h.parts_ofChars
  have hroot := h.rootOf_eq
  obtain ⟨root, parts⟩ := p
  unfold toChars
  split
  · rename_i hnil
    rw [Bool.and_eq_true, decide_eq_true_iff, decide_eq_true_iff] at hnil
    obtain ⟨rfl, rfl⟩ := hnil
    rfl
  · exact congrArg₂ Path.mk hroot hparts

theorem IsNormal.parse_text (h : p.IsNormal) : parse p.text = p := by
  rw [parse, text, String.toList_ofList, h.ofChars_toChars]

/-! ## A longer text -/

theorem parts_ofChars_of_notMem (h : '/' ∉ t) :
    (ofChars t).parts = if t = [] ∨ t = ['.'] then [] else [t] := by
  rw [ofChars, List.splitOn_eq_singleton h]
  by_cases hnil : t = []
  · simp [hnil]
  · by_cases hdot : t = ['.'] <;> simp [hnil, hdot]

/-- What is appended to a text goes behind its last slash. -/
theorem exists_parts_ofChars_append (t : List Char) : ∃ ps q, '/' ∉ q ∧
    ∀ e, '/' ∉ e → (ofChars (t ++ e)).parts = ps ++ (ofChars (q ++ e)).parts := by
  by_cases h : '/' ∈ t
  · obtain ⟨u, v, rfl, hv⟩ := exists_last_of_mem h
    refine ⟨(ofChars u).parts, v, hv, fun e he => ?_⟩
    have hve : '/' ∉ v ++ e := by simp [hv, he]
    simp only [ofChars, List.append_assoc, List.cons_append, List.splitOn_append_cons_self,
      List.filter_append]
  · exact ⟨[], t, h, fun e _ => rfl⟩

/-- A longer text has a longer last name or one name more. -/
theorem parts_parse_append (s : String) {x : String} (hx : '/' ∉ x.toList)
    (hlong : 2 ≤ x.toList.length) :
    (∃ ps q, (parse s).parts = ps ++ [q] ∧ (parse (s ++ x)).parts = ps ++ [q ++ x.toList]) ∨
    ∃ q, (parse (s ++ x)).parts = (parse s).parts ++ [q] := by
  obtain ⟨ps, q, hq, happend⟩ := exists_parts_ofChars_append s.toList
  have hlen : 2 ≤ (q ++ x.toList).length := by
    rw [List.length_append]
    omega
  have hname : ¬ (q ++ x.toList = [] ∨ q ++ x.toList = ['.']) := by
    rintro (h | h) <;> rw [h] at hlen <;> simp at hlen
  have hafter : (ofChars (s.toList ++ x.toList)).parts = ps ++ [q ++ x.toList] := by
    rw [happend _ hx, parts_ofChars_of_notMem (by simp [hq, hx]), if_neg hname]
  have hbefore : (ofChars s.toList).parts = ps ++ if q = [] ∨ q = ['.'] then [] else [q] := by
    have := happend [] List.not_mem_nil
    rwa [List.append_nil, List.append_nil, parts_ofChars_of_notMem hq] at this
  unfold parse
  rw [String.toList_append, hafter, hbefore]
  split
  · exact .inr ⟨q ++ x.toList, by rw [List.append_nil]⟩
  · exact .inl ⟨ps, q, rfl, rfl⟩

end Path

end TankArena.Text
