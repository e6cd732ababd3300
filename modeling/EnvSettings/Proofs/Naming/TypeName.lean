/-
Type names, shortened. The full name of a type is cut into paths, which are maximal runs of the
characters that paths consist of, and the single characters between them (`IsNameCut`). Shortening
leaves the single characters where they are and puts in place of each path what stands behind its
last double colon (`IsLastName`), or the whole path if there is none (`shortenPaths_of_cut`).

# Characters that end a path

The scan carries the part of the current path that it has seen, and a character that no path has
ends it whatever was seen. So a text is shortened on both sides of such a character on its own
(`shortenPaths_append_cons`), by induction on what stands before the character with any part of a
path carried. From this follows that shortening again changes nothing, by the same induction, since
each last name is a path without a double colon (`shortenPaths_shortenPaths`).
-/
import EnvSettings.Naming
import EnvSettings.Proofs.Lists

namespace EnvSettings.Naming

open EnvSettings.Text

-- ============================================================== last names

/-- Two colons side by side. -/
def AreColons (c d : Char) : Prop := c = ':' ∧ d = ':'

/-- No double colon stands in the text. -/
def IsColonFree (cs : List Char) : Prop := cs.IsChain fun c d => ¬ AreColons c d

/-- There is no pair of colons exactly if none is found. -/
theorem isColonFree_iff {cs : List Char} : IsColonFree cs ↔ ¬ [':', ':'] <:+: cs := by
  unfold IsColonFree
  rw [isChain_iff_forall_pair]
  apply Iff.intro
  · intro hpairs hpair
    exact hpairs ':' ':' hpair ⟨rfl, rfl⟩
  · intro hnone c d hpair hcolons
    obtain ⟨rfl, rfl⟩ := hcolons
    exact hnone hpair

/-- The last name of a path: what stands behind its last double colon, behind which no further one
starts, or the path itself if it has none. -/
def IsLastName (path name : List Char) : Prop :=
  (∃ front, path = front ++ [':', ':'] ++ name ∧ ¬ [':', ':'] <:+: ':' :: name)
    ∨ (¬ [':', ':'] <:+: path ∧ name = path)

/-- Where no double colon is found there is none. -/
theorem isColonFree_of_afterLastColons {path : List Char} (hnone : afterLastColons path = none) :
    IsColonFree path := by
  induction path with
  | nil => exact List.isChain_nil
  | cons c rest ih =>
      unfold afterLastColons at hnone
      cases hrest : afterLastColons rest with
      | some name =>
          rw [hrest] at hnone
          cases hnone
      | none =>
          rw [hrest] at hnone
          refine List.isChain_cons.mpr ⟨fun d hd hcolons => ?_, ih hrest⟩
          obtain ⟨back, rfl⟩ := List.head?_eq_some_iff.mp hd
          obtain ⟨rfl, rfl⟩ := hcolons
          cases hnone

/-- What is found stands behind a double colon, and none starts behind that one. -/
theorem exists_of_afterLastColons {path name : List Char}
    (hname : afterLastColons path = some name) :
    ∃ front, path = front ++ [':', ':'] ++ name ∧ IsColonFree (':' :: name) := by
  induction path with
  | nil => cases hname
  | cons c rest ih =>
      unfold afterLastColons at hname
      cases hrest : afterLastColons rest with
      | some other =>
          rw [hrest] at hname
          obtain ⟨front, hparts, hfree⟩ := ih (hrest.trans hname)
          exact ⟨c :: front, by rw [hparts]; rfl, hfree⟩
      | none =>
          rw [hrest] at hname
          dsimp only at hname
          have hfree := isColonFree_of_afterLastColons hrest
          split at hname
          · cases hname
            exact ⟨[], rfl, hfree⟩
          · cases hname

/-- A path is cut down to its last name. -/
theorem isLastName_lastSegment (path : List Char) : IsLastName path (lastSegment path) := by
  unfold lastSegment
  cases hname : afterLastColons path with
  | some name =>
      obtain ⟨front, hparts, hfree⟩ := exists_of_afterLastColons hname
      exact Or.inl ⟨front, hparts, isColonFree_iff.mp hfree⟩
  | none => exact Or.inr ⟨isColonFree_iff.mp (isColonFree_of_afterLastColons hname), rfl⟩

/-- A last name has no double colon. -/
theorem isColonFree_lastSegment (path : List Char) : IsColonFree (lastSegment path) := by
  rcases isLastName_lastSegment path with ⟨front, -, hfree⟩ | ⟨hfree, hwhole⟩
  · exact (isColonFree_iff.mpr hfree).tail
  · rw [hwhole]
    exact isColonFree_iff.mpr hfree

/-- A text without a double colon is its own last name. -/
theorem lastSegment_of_isColonFree {cs : List Char} (hfree : IsColonFree cs) :
    lastSegment cs = cs := by
  rcases isLastName_lastSegment cs with ⟨front, hparts, -⟩ | ⟨-, hwhole⟩
  · have hpair : [':', ':'] <:+: cs := ⟨front, lastSegment cs, hparts.symm⟩
    exact absurd hpair (isColonFree_iff.mp hfree)
  · exact hwhole

/-- The characters of a last name are among those of the path. -/
theorem mem_of_mem_lastSegment {path : List Char} {c : Char} (hc : c ∈ lastSegment path) :
    c ∈ path := by
  rcases isLastName_lastSegment path with ⟨front, hparts, -⟩ | ⟨-, hwhole⟩
  · rw [hparts]
    exact List.mem_append_right _ hc
  · rwa [hwhole] at hc

-- =================================================================== scan

/-- Path characters are carried. -/
theorem shortenPaths_run {run : List Char} (hrun : ∀ c ∈ run, isPathChar c = true)
    (path rest : List Char) :
    shortenPaths path (run ++ rest) = shortenPaths (path ++ run) rest := by
  induction run generalizing path with
  | nil => rw [List.nil_append, List.append_nil]
  | cons c run ih =>
      obtain ⟨hc, hmore⟩ := List.forall_mem_cons.mp hrun
      rw [List.cons_append, shortenPaths, if_pos hc, ih hmore, List.append_assoc,
        List.singleton_append]

/-- Where a path ends its last name is written. -/
theorem shortenPaths_of_head? {rest : List Char} (hrest : ∀ c ∈ rest.head?, isPathChar c = false)
    (path : List Char) : shortenPaths path rest = lastSegment path ++ shortenPaths [] rest := by
  have hempty : lastSegment [] = [] := rfl
  cases rest with
  | nil => rw [shortenPaths, shortenPaths, hempty, List.append_nil]
  | cons d rest =>
      have hd : ¬ isPathChar d = true := by simpa using hrest d rfl
      rw [shortenPaths, shortenPaths, if_neg hd, if_neg hd, hempty, List.nil_append]

/-- A character that no path has stands between two texts that are shortened on their own. -/
theorem shortenPaths_append_cons {d : Char} (hd : isPathChar d = false)
    (path cs rest : List Char) :
    shortenPaths path (cs ++ d :: rest) = shortenPaths path cs ++ d :: shortenPaths [] rest := by
  have hends : ¬ isPathChar d = true := Bool.eq_false_iff.mp hd
  induction cs generalizing path with
  | nil => rw [List.nil_append, shortenPaths, shortenPaths, if_neg hends]
  | cons c cs ih =>
      rw [List.cons_append, shortenPaths, shortenPaths]
      by_cases hc : isPathChar c = true
      · rw [if_pos hc, if_pos hc, ih]
      · rw [if_neg hc, if_neg hc, ih, List.append_assoc, List.cons_append]

/-- A shortened name has no other characters than the full one. -/
theorem mem_of_mem_shortenPaths {path cs : List Char} {c : Char}
    (hc : c ∈ shortenPaths path cs) : c ∈ path ∨ c ∈ cs := by
  induction cs generalizing path with
  | nil => exact Or.inl (mem_of_mem_lastSegment hc)
  | cons d cs ih =>
      rw [shortenPaths] at hc
      by_cases hd : isPathChar d = true
      · rw [if_pos hd] at hc
        rcases ih hc with hpath | hrest
        · rcases List.mem_append.mp hpath with hbefore | hlast
          · exact Or.inl hbefore
          · rw [List.mem_singleton.mp hlast]
            exact Or.inr List.mem_cons_self
        · exact Or.inr (List.mem_cons_of_mem d hrest)
      · rw [if_neg hd, List.mem_append, List.mem_cons] at hc
        rcases hc with hname | rfl | hrest
        · exact Or.inl (mem_of_mem_lastSegment hname)
        · exact Or.inr List.mem_cons_self
        · exact Or.inr (List.mem_cons_of_mem d ((ih hrest).resolve_left List.not_mem_nil))

theorem isPathChar_colon : isPathChar ':' = true := by
  unfold isPathChar
  rw [decide_eq_true rfl, Bool.or_true]

/-- No double colon is left. -/
theorem isColonFree_shortenPaths (path cs : List Char) : IsColonFree (shortenPaths path cs) := by
  induction cs generalizing path with
  | nil => exact isColonFree_lastSegment path
  | cons c cs ih =>
      rw [shortenPaths]
      by_cases hc : isPathChar c = true
      · rw [if_pos hc]
        exact ih _
      · -- a colon is a path character, so the one between two names is none
        have hcolon : c ≠ ':' := by
          rintro rfl
          exact hc isPathChar_colon
        rw [if_neg hc]
        refine List.isChain_append.mpr ⟨isColonFree_lastSegment path, ?_, ?_⟩
        · exact List.isChain_cons.mpr ⟨fun d _ hcolons => hcolon hcolons.1, ih []⟩
        · intro a _ b hb hcolons
          exact hcolon ((Option.some.inj hb).trans hcolons.2)

/-- What was shortened stays as it is. -/
theorem shortenPaths_shortenPaths {path : List Char} (hpath : ∀ c ∈ path, isPathChar c = true)
    (cs : List Char) : shortenPaths [] (shortenPaths path cs) = shortenPaths path cs := by
  have hname : ∀ {run : List Char}, (∀ c ∈ run, isPathChar c = true) →
      shortenPaths [] (lastSegment run) = lastSegment run := by
    intro run hrun
    have hmore : ∀ c ∈ lastSegment run, isPathChar c = true :=
      fun c hc => hrun c (mem_of_mem_lastSegment hc)
    have hscan := shortenPaths_run hmore [] []
    rw [List.append_nil, List.nil_append] at hscan
    rw [hscan, shortenPaths, lastSegment_of_isColonFree (isColonFree_lastSegment run)]
  induction cs generalizing path with
  | nil => exact hname hpath
  | cons c cs ih =>
      rw [shortenPaths]
      by_cases hc : isPathChar c = true
      · rw [if_pos hc]
        exact ih (List.forall_mem_append.mpr ⟨hpath, List.forall_mem_singleton.mpr hc⟩)
      · rw [if_neg hc, shortenPaths_append_cons (Bool.eq_false_iff.mpr hc), hname hpath,
          ih (List.forall_mem_nil _)]

-- ================================================================= pieces

/-- A piece of a type's full name: a path, or a character that no path has. -/
inductive Piece
  | path (cs : List Char)
  | between (c : Char)

namespace Piece

/-- The characters of a piece. -/
def text : Piece → List Char
  | .path cs => cs
  | .between c => [c]

/-- The piece is of its kind. -/
def Fits : Piece → Prop
  | .path cs => cs ≠ [] ∧ ∀ c ∈ cs, isPathChar c = true
  | .between c => isPathChar c = false

/-- The piece is a path. -/
def IsPath : Piece → Prop
  | .path _ => True
  | .between _ => False

instance : (piece : Piece) → Decidable piece.Fits
  | .path cs => decidable_of_iff (cs ≠ [] ∧ cs.all isPathChar = true)
      (and_congr_right fun _ => List.all_eq_true)
  | .between c => inferInstanceAs (Decidable (isPathChar c = false))

instance : (piece : Piece) → Decidable piece.IsPath
  | .path _ => isTrue trivial
  | .between _ => isFalse id

/-- What is put in place of the piece. -/
def ShortenedTo : Piece → List Char → Prop
  | .path cs, short => IsLastName cs short
  | .between c, short => short = [c]

end Piece

/-- The text is cut into paths, each as long as it can be, and single characters between them. -/
structure IsNameCut (cs : List Char) (pieces : List Piece) : Prop where
  whole : pieces.flatMap Piece.text = cs
  fits : ∀ piece ∈ pieces, piece.Fits
  maximal : pieces.IsChain fun piece next => piece.IsPath → ¬ next.IsPath

/-- Every text can be cut so. -/
theorem exists_isNameCut (cs : List Char) : ∃ pieces, IsNameCut cs pieces := by
  induction cs with
  | nil => exact ⟨[], rfl, List.forall_mem_nil _, List.isChain_nil⟩
  | cons c cs ih =>
      obtain ⟨pieces, hwhole, hfits, hmaximal⟩ := ih
      by_cases hc : isPathChar c = true
      · have hone : Piece.Fits (.path [c]) :=
          ⟨List.cons_ne_nil c [], List.forall_mem_singleton.mpr hc⟩
        cases pieces with
        | nil =>
            refine ⟨[.path [c]], by rw [← hwhole]; rfl, ?_, List.isChain_singleton _⟩
            exact List.forall_mem_singleton.mpr hone
        | cons piece pieces =>
            obtain ⟨hpiece, hmore⟩ := List.forall_mem_cons.mp hfits
            cases piece with
            | path run =>
                -- the path that the rest starts with starts one character earlier
                have hlonger : Piece.Fits (.path (c :: run)) :=
                  ⟨List.cons_ne_nil c run, List.forall_mem_cons.mpr ⟨hc, hpiece.2⟩⟩
                refine ⟨.path (c :: run) :: pieces, by rw [← hwhole]; rfl, ?_, ?_⟩
                · exact List.forall_mem_cons.mpr ⟨hlonger, hmore⟩
                · exact List.isChain_cons.mpr ⟨(List.isChain_cons.mp hmaximal).1, hmaximal.tail⟩
            | between d =>
                refine ⟨.path [c] :: .between d :: pieces, by rw [← hwhole]; rfl, ?_, ?_⟩
                · exact List.forall_mem_cons.mpr ⟨hone, hfits⟩
                · exact List.isChain_cons_cons.mpr ⟨fun _ hnext => hnext, hmaximal⟩
      · have hpiece : Piece.Fits (.between c) := Bool.eq_false_iff.mpr hc
        refine ⟨.between c :: pieces, by rw [List.flatMap_cons, hwhole]; rfl, ?_, ?_⟩
        · exact List.forall_mem_cons.mpr ⟨hpiece, hfits⟩
        · exact List.isChain_cons.mpr ⟨fun _ _ hpath => hpath.elim, hmaximal⟩

/-- A text is shortened piece by piece. -/
theorem shortenPaths_of_cut {cs : List Char} {pieces : List Piece} (hcut : IsNameCut cs pieces) :
    ∃ shorts, List.Forall₂ Piece.ShortenedTo pieces shorts
      ∧ shortenPaths [] cs = shorts.flatten := by
  obtain ⟨rfl, hfits, hmaximal⟩ := hcut
  induction pieces with
  | nil => exact ⟨[], .nil, rfl⟩
  | cons piece pieces ih =>
      obtain ⟨hpiece, hmore⟩ := List.forall_mem_cons.mp hfits
      obtain ⟨shorts, hshorts, htext⟩ := ih hmore hmaximal.tail
      rw [List.flatMap_cons]
      cases piece with
      | path run =>
          refine ⟨lastSegment run :: shorts, .cons (isLastName_lastSegment run) hshorts, ?_⟩
          -- behind a path that cannot be longer stands no path character
          have hends : ∀ d ∈ (pieces.flatMap Piece.text).head?, isPathChar d = false := by
            cases pieces with
            | nil => exact fun _ hd => nomatch hd
            | cons next pieces =>
                cases next with
                | path _ => exact absurd trivial ((List.isChain_cons_cons.mp hmaximal).1 trivial)
                | between e =>
                    intro d hd
                    rw [← Option.some.inj hd]
                    exact hmore (.between e) List.mem_cons_self
          have hscan := shortenPaths_run hpiece.2 [] (pieces.flatMap Piece.text)
          rw [List.nil_append] at hscan
          show shortenPaths [] (run ++ pieces.flatMap Piece.text) = lastSegment run ++ shorts.flatten
          rw [hscan, shortenPaths_of_head? hends, htext]
      | between c =>
          refine ⟨[c] :: shorts, .cons rfl hshorts, ?_⟩
          have hc : ¬ isPathChar c = true := Bool.eq_false_iff.mp hpiece
          show shortenPaths [] (c :: pieces.flatMap Piece.text) = c :: shorts.flatten
          rw [shortenPaths, if_neg hc, htext]
          rfl

end EnvSettings.Naming

namespace EnvSettings

open EnvSettings.Naming

/-- The rule on type names. Every name can be cut into paths, each as long as it can be, and single
characters between them; and however it is cut so, the single characters stay in their places and
every path is cut down to what stands behind its last double colon, if it has one. So no double
colon is left, and what was shortened stays as it is; and two names with a character between them
that no path has are shortened each on its own. -/
theorem shortTypeName_piece_by_piece (name : String) :
    (∃ pieces, IsNameCut name.toList pieces)
      ∧ (∀ pieces, IsNameCut name.toList pieces →
        ∃ shorts, List.Forall₂ Piece.ShortenedTo pieces shorts
          ∧ (shortTypeName name).toList = shorts.flatten)
      ∧ ¬ [':', ':'] <:+: (shortTypeName name).toList
      ∧ shortTypeName (shortTypeName name) = shortTypeName name
      ∧ ∀ (d : Char) (before behind : String), isPathChar d = false →
        shortTypeName (before ++ String.singleton d ++ behind)
          = shortTypeName before ++ String.singleton d ++ shortTypeName behind := by
  have hchars : ∀ s : String, (shortTypeName s).toList = shortenPaths [] s.toList :=
    fun s => String.toList_ofList
  refine ⟨exists_isNameCut _, fun pieces hcut => ?_, ?_, ?_, fun d before behind hd => ?_⟩
  · rw [hchars]
    exact shortenPaths_of_cut hcut
  · rw [hchars]
    exact isColonFree_iff.mp (isColonFree_shortenPaths [] _)
  · refine String.toList_injective ?_
    rw [hchars, hchars, shortenPaths_shortenPaths (List.forall_mem_nil _)]
  · refine String.toList_injective ?_
    have hapart := shortenPaths_append_cons hd [] before.toList behind.toList
    simp only [hchars, String.toList_append, String.toList_singleton, List.append_assoc,
      List.singleton_append]
    exact hapart

/-- A type inside another one, inside a third one. -/
theorem shortTypeName_piece_by_piece_nested :
    let name := "alloc::vec::Vec<core::option::Option<u8>>"
    let pieces : List Piece :=
      [.path "alloc::vec::Vec".toList, .between '<', .path "core::option::Option".toList,
        .between '<', .path "u8".toList, .between '>', .between '>']
    IsNameCut name.toList pieces
      ∧ (∃ shorts, List.Forall₂ Piece.ShortenedTo pieces shorts
        ∧ (shortTypeName name).toList = shorts.flatten)
      ∧ isPathChar '<' = false
      ∧ shortTypeName name
        = shortTypeName "alloc::vec::Vec" ++ "<" ++ shortTypeName "core::option::Option<u8>>"
      ∧ shortTypeName name = "Vec<Option<u8>>" := by
  intro name pieces
  have hcut : IsNameCut name.toList pieces :=
    ⟨by decide +kernel, by decide +kernel, by decide +kernel⟩
  have hbracket : isPathChar '<' = false := by decide +kernel
  obtain ⟨-, hpieces, -, -, hapart⟩ := shortTypeName_piece_by_piece name
  refine ⟨hcut, hpieces pieces hcut, hbracket, ?_, by decide +kernel⟩
  exact hapart '<' "alloc::vec::Vec" "core::option::Option<u8>>" hbracket

end EnvSettings
