import Dimensional.Docs.Listing
import Dimensional.Proofs.Files
import Mathlib.Data.List.Nodup

/-!
Where the front page of a directory lies.  It is the index of the one entry that has an index, so
that the order in which the entries are listed makes no difference.
-/

namespace Dimensional.Docs

namespace Listing

/-- The directory has no index, and this entry is the only one that has. -/
structure IsOnly (listing : Listing) (name : String) : Prop where
  indexless : listing.hasIndex = false
  indexed : (name, true) ∈ listing.entries
  alone : ∀ other, (other, true) ∈ listing.entries → other = name

section Choice

variable {listing other : Listing} {name target : String}

theorem mem_indexed_iff {entry : String × Bool} :
    entry ∈ listing.entries.filter (·.2) ↔
      (entry.1, true) ∈ listing.entries ∧ entry = (entry.1, true) := by
  obtain ⟨name, indexed⟩ := entry
  cases indexed <;> simp

theorem filter_eq_singleton (distinct : (listing.entries.map (·.1)).Nodup)
    (only : listing.IsOnly name) : listing.entries.filter (·.2) = [(name, true)] := by
  have members (entry : String × Bool) :
      entry ∈ listing.entries.filter (·.2) ↔ entry ∈ [(name, true)] := by
    rw [mem_indexed_iff, List.mem_singleton]
    constructor
    · rintro ⟨mem, shape⟩
      rw [shape, only.alone entry.1 mem]
    · rintro rfl
      exact ⟨only.indexed, rfl⟩
  have once : (listing.entries.filter (·.2)).Nodup := (distinct.of_map _).filter _
  exact List.perm_singleton.mp
    ((List.perm_ext_iff_of_nodup once (List.nodup_singleton _)).mpr members)

theorem isOnly_of_filter {indexed : Bool} (indexless : listing.hasIndex = false)
    (found : listing.entries.filter (·.2) = [(name, indexed)]) : listing.IsOnly name := by
  have members (entry : String × Bool) :
      (entry.1, true) ∈ listing.entries ∧ entry = (entry.1, true) ↔ entry = (name, indexed) := by
    rw [← mem_indexed_iff, found, List.mem_singleton]
  refine ⟨indexless, ((members (name, indexed)).mpr rfl).1, fun other mem => ?_⟩
  exact (Prod.mk.inj ((members (other, true)).mp ⟨mem, rfl⟩)).1

theorem redirect?_eq_some_iff (distinct : (listing.entries.map (·.1)).Nodup) :
    listing.redirect? = some target ↔
      ∃ name, listing.IsOnly name ∧ target = name ++ "/" ++ indexName := by
  constructor
  · intro h
    rw [redirect?] at h
    split at h
    case isTrue => contradiction
    case isFalse indexless =>
      split at h
      case h_1 name indexed found =>
        exact ⟨name, isOnly_of_filter (Bool.eq_false_iff.mpr indexless) found,
          (Option.some.inj h).symm⟩
      case h_2 => contradiction
  · rintro ⟨name, only, rfl⟩
    rw [redirect?, if_neg (by simp [only.indexless]), filter_eq_singleton distinct only]

theorem redirect?_of_hasIndex (index : listing.hasIndex = true) : listing.redirect? = none := by
  rw [redirect?, if_pos index]

/-- The order of the entries makes no difference. -/
theorem redirect?_of_perm (index : other.hasIndex = listing.hasIndex)
    (perm : other.entries.Perm listing.entries) : other.redirect? = listing.redirect? := by
  have indexed := perm.filter (·.2)
  rw [redirect?, redirect?, index]
  split
  case isTrue => rfl
  case isFalse =>
    split
    case h_1 found =>
      rw [found] at indexed
      rw [List.perm_singleton.mp indexed.symm]
    case h_2 several =>
      split
      case h_1 found =>
        rw [found] at indexed
        exact absurd (List.perm_singleton.mp indexed) (several _ _)
      case h_2 => rfl

end Choice

def IsControl (c : Char) : Prop :=
  c.toNat < 32 ∨ 127 ≤ c.toNat ∧ c.toNat < 160

instance (c : Char) : Decidable (IsControl c) :=
  inferInstanceAs (Decidable (_ ∨ _))

/-- A name that something in a directory can have, without control characters. -/
structure IsEntryName (name : String) : Prop where
  isName : Files.IsName name
  slashless : '/' ∉ name.toList
  printable : ∀ c ∈ name.toList, ¬ IsControl c

theorem isEntryName_iff {name : String} :
    IsEntryName name ↔ (name ≠ "" ∧ name ≠ "." ∧ name ≠ "..") ∧ '/' ∉ name.toList ∧
      ∀ c ∈ name.toList, ¬ IsControl c :=
  ⟨fun h => ⟨h.isName, h.slashless, h.printable⟩, fun h => ⟨h.1, h.2.1, h.2.2⟩⟩

-- There is an instance for properties of all characters as well, which would try each of them.
instance (name : String) : Decidable (IsEntryName name) :=
  letI : Decidable (∀ c ∈ name.toList, ¬ IsControl c) := List.decidableBAll _ name.toList
  decidable_of_iff' _ isEntryName_iff

/-- A listing of a directory, in any order: every name in it stands there once. -/
structure Shows (listing : Listing) (files : Files) (place : Place) : Prop where
  index : listing.hasIndex = files.isFileAt (place ++ [indexName])
  distinct : (listing.entries.map (·.1)).Nodup
  mem_iff : ∀ name indexed, (name, indexed) ∈ listing.entries ↔
    files.Holds place name ∧ indexed = files.isFileAt (place ++ [name, indexName])
  named : ∀ name, files.Holds place name → IsEntryName name

section Shows

variable {listing other : Listing} {files : Files} {place : Place} {path : String}

theorem mem_ofPlace_iff {name : String} {indexed : Bool} :
    (name, indexed) ∈ (ofPlace files place).entries ↔
      files.Holds place name ∧ indexed = files.isFileAt (place ++ [name, indexName]) := by
  rw [ofPlace, List.mem_map]
  constructor
  · rintro ⟨other, mem, same⟩
    obtain ⟨rfl, rfl⟩ := Prod.mk.inj same
    exact ⟨Files.mem_children_iff.mp mem, rfl⟩
  · rintro ⟨holds, rfl⟩
    exact ⟨name, Files.mem_children_iff.mpr holds, rfl⟩

theorem map_fst_ofPlace (files : Files) (place : Place) :
    (ofPlace files place).entries.map (·.1) = files.children place := by
  rw [ofPlace, List.map_map]
  exact List.map_id _

theorem shows_ofPlace (named : ∀ name ∈ files.children place, IsEntryName name) :
    (ofPlace files place).Shows files place where
  index := rfl
  distinct := map_fst_ofPlace files place ▸ Files.nodup_children files place
  mem_iff _ _ := mem_ofPlace_iff
  named name holds := named name (Files.mem_children_iff.mpr holds)

theorem Shows.of_perm (shows : listing.Shows files place)
    (index : other.hasIndex = listing.hasIndex) (perm : other.entries.Perm listing.entries) :
    other.Shows files place where
  index := index.trans shows.index
  distinct := (perm.map (·.1)).nodup_iff.mpr shows.distinct
  mem_iff _ _ := perm.mem_iff.trans (shows.mem_iff _ _)
  named := shows.named

theorem Shows.perm (shows : listing.Shows files place) (otherShows : other.Shows files place) :
    other.entries.Perm listing.entries := by
  refine (List.perm_ext_iff_of_nodup (otherShows.distinct.of_map _) (shows.distinct.of_map _)).mpr
    fun entry => ?_
  rw [otherShows.mem_iff, shows.mem_iff]

/-- The choice is read off any listing of the directory. -/
theorem Shows.chooseRedirect_eq (shows : listing.Shows files place)
    (resolved : files.resolve path = .ok place) (directory : files.isDirectoryAt place = true) :
    chooseRedirect files path = listing.redirect? := by
  have own := shows_ofPlace fun name mem => shows.named name (Files.mem_children_iff.mp mem)
  rw [chooseRedirect, ofPath?, resolved]
  simp only [directory, if_pos, Option.bind_some]
  exact redirect?_of_perm (own.index.trans shows.index.symm) (shows.perm own)

end Shows

end Listing

end Dimensional.Docs
