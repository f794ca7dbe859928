import Dimensional.Docs.Site
import Dimensional.Proofs.Docs.Listing

/-!
The front page of a site.  If it lies in the one directory with an index, the site redirects to it.
A redirection is read again as a target, and a name may hold characters that part a target; so some
names lead back to the front page, and those of letters and digits lead to the index.
-/

namespace Dimensional.Docs

namespace Target

variable {path front word rest : List Char}

theorem toUTF8_ofList (text : List Char) :
    (String.ofList text).toUTF8 = ⟨(text.flatMap String.utf8EncodeChar).toArray⟩ := by
  apply ByteArray.ext
  simp [String.toUTF8, List.utf8Encode]

theorem charBytes_eq (c : Char) : charBytes c = String.utf8EncodeChar c := by
  rw [charBytes, String.singleton_eq_ofList, toUTF8_ofList]
  simp

theorem bytes_of_free (free : '%' ∉ path) : bytes path = path.flatMap String.utf8EncodeChar := by
  induction path with
  | nil => rfl
  | cons c path ih =>
      obtain ⟨plain, free⟩ := List.ne_and_not_mem_of_not_mem_cons free
      rw [bytes.eq_2 c path fun _ _ _ percent _ => plain percent.symm, charBytes_eq, ih free,
        List.flatMap_cons]

/-- A path without percent signs stands for itself. -/
theorem decode?_of_free (free : '%' ∉ path) : decode? path = some path := by
  have valid : (String.ofList path).toUTF8.IsValidUTF8 := (String.ofList path).isValidUTF8
  have decoded : String.fromUTF8? (String.ofList path).toUTF8 = some (String.ofList path) :=
    dif_pos valid
  rw [decode?, bytes_of_free free, ← toUTF8_ofList, decoded, Option.map_some, String.toList_ofList]

/-- A path ends in front of a question mark or a number sign. -/
theorem takeWhile_isPathChar_eq_iff (slashless : '/' ∉ word)
    (inside : ∀ c ∈ word, isPathChar c = true) :
    (front ++ '/' :: rest).takeWhile isPathChar = word ↔
      ∃ mark behind, isPathChar mark = false ∧ front = word ++ mark :: behind := by
  constructor
  · clear inside
    induction front generalizing word with
    | nil =>
        rintro rfl
        rw [List.nil_append, List.takeWhile_cons_of_pos (by decide)] at slashless
        exact absurd List.mem_cons_self slashless
    | cons c front ih =>
        rintro rfl
        cases inPath : isPathChar c with
        | false =>
            refine ⟨c, front, inPath, ?_⟩
            rw [List.cons_append, List.takeWhile_cons_of_neg (by simp [inPath]), List.nil_append]
        | true =>
            rw [List.cons_append, List.takeWhile_cons_of_pos inPath] at slashless ⊢
            obtain ⟨mark, behind, ends, shape⟩ :=
              ih (List.ne_and_not_mem_of_not_mem_cons slashless).2 rfl
            exact ⟨mark, behind, ends, congrArg (c :: ·) shape⟩
  · rintro ⟨mark, behind, ends, rfl⟩
    rw [List.append_assoc, List.takeWhile_append_of_pos inside, List.cons_append,
      List.takeWhile_cons_of_neg (by simp [ends]), List.append_nil]

theorem isPathChar_eq_false_iff {c : Char} : isPathChar c = false ↔ c = '?' ∨ c = '#' := by
  rw [isPathChar, Bool.and_eq_false_iff, bne_eq_false_iff_eq, bne_eq_false_iff_eq]

end Target

namespace Site

open Listing (IsEntryName)

/-- A request for the front page, by either of its paths. -/
def AsksFront (request : Request) : Prop :=
  request.method = "GET" ∧ isFront (Target.read request.target) = true

/-- Where the index of a directory lies in a site. -/
def pageOf (name : String) : String :=
  "/" ++ (name ++ "/" ++ indexName)

/-- A name that, as a target, ends where the front page stands. -/
def StartsOver (name : String) : Prop :=
  ∃ mark behind, (mark = '?' ∨ mark = '#') ∧
    (name.toList = mark :: behind ∨ name.toList = indexName.toList ++ mark :: behind)

theorem isFront_iff {target : Target} :
    isFront target = true ↔ target.path = ['/'] ∨ target.path = '/' :: indexName.toList := by
  rw [isFront, Bool.or_eq_true, beq_iff_eq, beq_iff_eq]

theorem toList_pageOf (name : String) :
    (pageOf name).toList = '/' :: (name.toList ++ '/' :: indexName.toList) := by
  simp [pageOf]

theorem pageOf_injective {name other : String} (same : pageOf name = pageOf other) :
    name = other := by
  have texts := congrArg String.toList same
  rw [toList_pageOf, toList_pageOf, List.cons_inj_right] at texts
  exact String.toList_inj.mp (List.append_cancel_right texts)

/-- A redirection leads back to the front page exactly for these names. -/
theorem isFront_pageOf_iff {name : String} :
    isFront (Target.read (pageOf name)) = true ↔ StartsOver name := by
  have path : (Target.read (pageOf name)).path =
      '/' :: (name.toList ++ '/' :: indexName.toList).takeWhile Target.isPathChar := by
    change (pageOf name).toList.takeWhile Target.isPathChar = _
    rw [toList_pageOf, List.takeWhile_cons_of_pos (by decide)]
  have ends : ∀ word : List Char, '/' ∉ word → (∀ c ∈ word, Target.isPathChar c = true) →
      ((Target.read (pageOf name)).path = '/' :: word ↔
        ∃ mark behind, (mark = '?' ∨ mark = '#') ∧ name.toList = word ++ mark :: behind) := by
    intro word slashless inside
    rw [path, List.cons_inj_right, Target.takeWhile_isPathChar_eq_iff slashless inside]
    simp only [Target.isPathChar_eq_false_iff]
  rw [isFront_iff, ends [] List.not_mem_nil (by simp),
    ends indexName.toList (by decide +kernel) (List.all_eq_true.mp (by decide +kernel)),
    StartsOver]
  constructor
  · rintro (⟨mark, behind, ends, shape⟩ | ⟨mark, behind, ends, shape⟩)
    · exact ⟨mark, behind, ends, .inl shape⟩
    · exact ⟨mark, behind, ends, .inr shape⟩
  · rintro ⟨mark, behind, ends, shape | shape⟩
    · exact .inl ⟨mark, behind, ends, shape⟩
    · exact .inr ⟨mark, behind, ends, shape⟩

section Answers

variable {site : Site} {request : Request}

theorem respond_of_get (method : request.method = "GET") :
    site.respond request = site.get (Target.read request.target) := by
  simp only [respond, method]

theorem status_file_ne (place : Place) : (site.file place).status ≠ 302 := by
  rw [file]
  split
  · exact (by decide : (200 : Nat) ≠ 302)
  · exact (by decide : (404 : Nat) ≠ 302)

/-- Files and directories are never found elsewhere. -/
theorem status_lookUp_ne (target : Target) : (site.lookUp target).status ≠ 302 := by
  unfold lookUp
  split
  · exact (by decide : (404 : Nat) ≠ 302)
  · simp only
    split
    · split
      · exact status_file_ne _
      · exact (by decide : (307 : Nat) ≠ 302)
    · exact status_file_ne _

theorem respond_of_front {front : String} (asks : AsksFront request)
    (elsewhere : site.front = some front) : site.respond request = .found ("/" ++ front) := by
  rw [respond_of_get asks.1, get, elsewhere]
  exact if_pos asks.2

theorem respond_of_no_front (method : request.method = "GET") (here : site.front = none) :
    site.respond request = site.lookUp (Target.read request.target) := by
  rw [respond_of_get method, get, here]

theorem placeBelow?_front {target : Target} (front : isFront target = true) :
    placeBelow? target.path = some [] ∧ target.isDirectory = true ∨
      placeBelow? target.path = some [indexName] := by
  rcases isFront_iff.mp front with path | path
  · rw [Target.isDirectory, path]
    exact .inl (by decide +kernel)
  · rw [path]
    exact .inr (by decide +kernel)

theorem file_of_text {place : Place} {text : String}
    (found : site.files.textAt? place = some text) : site.file place = .text text := by
  rw [file, found]

theorem respond_of_text {text : String} (asks : AsksFront request) (here : site.front = none)
    (directory : site.files.isDirectoryAt site.root = true)
    (index : site.files.isDirectoryAt (site.root ++ [indexName]) = false)
    (found : site.files.textAt? (site.root ++ [indexName]) = some text) :
    site.respond request = .text text := by
  rw [respond_of_no_front asks.1 here, lookUp]
  rcases placeBelow?_front asks.2 with ⟨below, isDirectory⟩ | below
  · simp only [below, List.append_nil, directory, isDirectory, if_true]
    exact file_of_text found
  · simp only [below, index, Bool.false_eq_true, if_false]
    exact file_of_text found

/-- Characters that stand for themselves in every target. -/
def IsUnreserved (c : Char) : Prop :=
  c.isAlphanum = true ∨ c = '-' ∨ c = '.' ∨ c = '_' ∨ c = '~'

theorem ne_percent_of_isUnreserved {c : Char} (h : IsUnreserved c) : c ≠ '%' := by
  rintro rfl
  revert h
  unfold IsUnreserved
  decide

theorem isPathChar_of_isUnreserved {c : Char} (h : IsUnreserved c) :
    Target.isPathChar c = true := by
  rw [← Bool.not_eq_false, Target.isPathChar_eq_false_iff]
  revert h
  unfold IsUnreserved
  rintro h (rfl | rfl) <;> revert h <;> decide

theorem placeBelow?_page {name : String} (isEntryName : IsEntryName name)
    (free : '%' ∉ name.toList) :
    placeBelow? ('/' :: (name.toList ++ '/' :: indexName.toList)) = some [name, indexName] := by
  obtain ⟨⟨nonempty, dot, dots⟩, slashless, -⟩ := isEntryName
  obtain ⟨c, rest, shape⟩ :=
    List.exists_cons_of_ne_nil fun empty => nonempty (String.toList_eq_nil_iff.mp empty)
  have start : c ≠ '/' := by
    rintro rfl
    exact slashless (shape ▸ List.mem_cons_self)
  have behind : ('/' :: (name.toList ++ '/' :: indexName.toList)).dropWhile (· == '/') =
      name.toList ++ '/' :: indexName.toList := by
    rw [List.dropWhile_cons_of_pos (by simp), shape, List.cons_append,
      List.dropWhile_cons_of_neg (by simpa using start)]
  have plain : '%' ∉ name.toList ++ '/' :: indexName.toList := by
    rw [List.mem_append, not_or]
    exact ⟨free, by decide +kernel⟩
  have first : (name.toList ++ '/' :: indexName.toList).head? ≠ some '/' := by
    rw [shape]
    simpa using start
  have pieces : (Text.splitAt '/' (name.toList ++ '/' :: indexName.toList)).map String.ofList =
      [name, indexName] := by
    rw [Text.splitAt_append, Text.splitAt_of_notMem slashless,
      Text.splitAt_of_notMem (by decide +kernel)]
    simp
  rw [placeBelow?, behind, Target.decode?_of_free plain]
  simp only [Option.bind_eq_bind, Option.bind_some, if_neg first, pieces]
  rw [List.filter_cons_of_pos (by simp [nonempty, dot]), List.filter_cons_of_pos (by decide),
    List.filter_nil, if_neg]
  rw [List.contains_iff_mem, List.mem_cons, List.mem_singleton, not_or]
  exact ⟨dots.symm, by decide⟩

theorem get_of_not_isFront {target : Target} (elsewhere : isFront target = false) :
    site.get target = site.lookUp target := by
  rw [get]
  split
  · exact if_neg (by simp [elsewhere])
  · rfl

theorem not_startsOver {name : String} (unreserved : ∀ c ∈ name.toList, IsUnreserved c) :
    ¬ StartsOver name := by
  rintro ⟨mark, behind, ends, shape⟩
  have mem : mark ∈ name.toList := by
    rcases shape with shape | shape <;> simp [shape]
  have inPath := isPathChar_of_isUnreserved (unreserved mark mem)
  rw [Target.isPathChar_eq_false_iff.mpr ends] at inPath
  contradiction

theorem path_pageOf {name : String} (unreserved : ∀ c ∈ name.toList, IsUnreserved c) :
    (Target.read (pageOf name)).path = '/' :: (name.toList ++ '/' :: indexName.toList) := by
  change (pageOf name).toList.takeWhile Target.isPathChar = _
  rw [toList_pageOf, List.takeWhile_cons_of_pos (by decide),
    List.takeWhile_append_of_pos fun c mem => isPathChar_of_isUnreserved (unreserved c mem)]
  rfl

/-- The index of a directory with a plain name is found where the redirection leads. -/
theorem respond_pageOf {name text : String} (isEntryName : IsEntryName name)
    (unreserved : ∀ c ∈ name.toList, IsUnreserved c)
    (leaf : site.files.isDirectoryAt (site.root ++ [name, indexName]) = false)
    (found : site.files.textAt? (site.root ++ [name, indexName]) = some text) :
    site.respond ⟨"GET", pageOf name⟩ = .text text := by
  have elsewhere : isFront (Target.read (pageOf name)) = false :=
    Bool.eq_false_iff.mpr fun front => not_startsOver unreserved (isFront_pageOf_iff.mp front)
  have below := placeBelow?_page isEntryName fun percent =>
    ne_percent_of_isUnreserved (unreserved '%' percent) rfl
  rw [← path_pageOf unreserved] at below
  rw [respond_of_get rfl, get_of_not_isFront elsewhere, lookUp]
  simp only [below, leaf, Bool.false_eq_true, if_false]
  exact file_of_text found

end Answers

/-- What a site does for its front page, by a listing of its root. -/
structure ShowsFront (site : Site) (listing : Listing) : Prop where
  chosen : ∀ target, listing.redirect? = some target ↔
    ∃ name, listing.IsOnly name ∧ target = name ++ "/" ++ indexName
  anyOrder : ∀ other : Listing, other.hasIndex = listing.hasIndex →
    other.entries.Perm listing.entries → other.redirect? = listing.redirect?
  front : site.front = listing.redirect?
  found : ∀ request, AsksFront request →
    ∀ name, site.respond request = .found (pageOf name) ↔ listing.IsOnly name
  status : ∀ request, AsksFront request →
    ((site.respond request).status = 302 ↔ ∃ name, listing.IsOnly name)
  kept : ∀ request text, AsksFront request →
    site.files.textAt? (site.root ++ [indexName]) = some text → site.respond request = .text text
  returns : ∀ name, listing.IsOnly name →
    (site.respond ⟨"GET", pageOf name⟩ = .found (pageOf name) ↔ StartsOver name)
  leads : ∀ name text, listing.IsOnly name → (∀ c ∈ name.toList, IsUnreserved c) →
    site.files.textAt? (site.root ++ [name, indexName]) = some text →
      site.respond ⟨"GET", pageOf name⟩ = .text text

section Front

variable {site : Site} {listing : Listing} {request : Request} {name : String}

theorem front_eq_some_iff (front : site.front = listing.redirect?)
    (distinct : (listing.entries.map (·.1)).Nodup) :
    site.front = some (name ++ "/" ++ indexName) ↔ listing.IsOnly name := by
  rw [front, Listing.redirect?_eq_some_iff distinct]
  constructor
  · rintro ⟨other, only, same⟩
    obtain rfl : name = other := pageOf_injective (congrArg ("/" ++ ·) same)
    exact only
  · exact fun only => ⟨name, only, rfl⟩

theorem respond_of_isOnly (front : site.front = listing.redirect?)
    (distinct : (listing.entries.map (·.1)).Nodup) (asks : AsksFront request)
    (only : listing.IsOnly name) : site.respond request = .found (pageOf name) :=
  respond_of_front asks ((front_eq_some_iff front distinct).mpr only)

/-- Nothing but the index of an only entry is found elsewhere. -/
theorem status_respond_iff (front : site.front = listing.redirect?)
    (distinct : (listing.entries.map (·.1)).Nodup) (asks : AsksFront request) :
    (site.respond request).status = 302 ↔ ∃ name, listing.IsOnly name := by
  constructor
  · intro status
    cases here : site.front with
    | none =>
        rw [respond_of_no_front asks.1 here] at status
        exact absurd status (status_lookUp_ne _)
    | some target =>
        obtain ⟨name, only, -⟩ :=
          (Listing.redirect?_eq_some_iff distinct).mp (front.symm.trans here)
        exact ⟨name, only⟩
  · rintro ⟨name, only⟩
    rw [respond_of_isOnly front distinct asks only, Response.found]

theorem respond_eq_found_iff (front : site.front = listing.redirect?)
    (distinct : (listing.entries.map (·.1)).Nodup) (asks : AsksFront request) :
    site.respond request = .found (pageOf name) ↔ listing.IsOnly name := by
  constructor
  · intro found
    have status : (site.respond request).status = 302 := by rw [found, Response.found]
    obtain ⟨other, only⟩ := (status_respond_iff front distinct asks).mp status
    have same := (respond_of_isOnly front distinct asks only).symm.trans found
    obtain rfl := pageOf_injective (Option.some.inj (congrArg Response.location same))
    exact only
  · exact respond_of_isOnly front distinct asks

theorem respond_pageOf_eq_found_iff (front : site.front = listing.redirect?)
    (distinct : (listing.entries.map (·.1)).Nodup) (only : listing.IsOnly name) :
    site.respond ⟨"GET", pageOf name⟩ = .found (pageOf name) ↔ StartsOver name := by
  rw [← isFront_pageOf_iff]
  constructor
  · intro found
    rw [← Bool.not_eq_false]
    intro elsewhere
    rw [respond_of_get rfl, get_of_not_isFront elsewhere] at found
    exact status_lookUp_ne _ (congrArg Response.status found)
  · exact fun again => respond_of_isOnly front distinct ⟨rfl, again⟩ only

end Front

section Root

variable {files : Files} {path : String} {place : Place} {listing : Listing}

theorem isDirectoryAt_of_text {text : String} (tree : files.IsTree)
    (found : files.textAt? place = some text) : files.isDirectoryAt place = false := by
  refine tree place (Files.isFileAt_iff.mp ?_)
  rw [Files.isFileAt, found, Option.isSome_some]

theorem ofPath_eq (resolved : files.resolve path = .ok place)
    (directory : files.isDirectoryAt place = true) (shows : listing.Shows files place) :
    ofPath files path = ⟨files, place, listing.redirect?⟩ := by
  rw [ofPath, shows.chooseRedirect_eq resolved directory, resolved]

theorem ofPath_showsFront (tree : files.IsTree) (resolved : files.resolve path = .ok place)
    (directory : files.isDirectoryAt place = true) (shows : listing.Shows files place) :
    ShowsFront (ofPath files path) listing := by
  have distinct := shows.distinct
  rw [ofPath_eq resolved directory shows]
  exact {
    chosen := fun target => Listing.redirect?_eq_some_iff distinct
    anyOrder := fun other => Listing.redirect?_of_perm
    front := rfl
    found := fun request asks name => respond_eq_found_iff rfl distinct asks
    status := fun request asks => status_respond_iff rfl distinct asks
    kept := by
      intro request text asks found
      have index : listing.hasIndex = true := by
        rw [shows.index, Files.isFileAt, found, Option.isSome_some]
      exact respond_of_text asks (Listing.redirect?_of_hasIndex index) directory
        (isDirectoryAt_of_text tree found) found
    returns := fun name only => respond_pageOf_eq_found_iff rfl distinct only
    leads := by
      intro name text only unreserved found
      have holds := ((shows.mem_iff name true).mp only.indexed).1
      exact respond_pageOf (shows.named name holds) unreserved (isDirectoryAt_of_text tree found)
        found }

def crateFiles : Files :=
  .ofPaths [("w/dv_core/index.html", "<html/>"), ("w/été/x.txt", "")] ["w/static.files"]

def crateListing : Listing :=
  ⟨false, [("static.files", false), ("été", false), ("dv_core", true)]⟩

theorem ofPath_showsFront_singleCrate :
    crateFiles.IsTree ∧ crateFiles.resolve "w" = .ok ["w"] ∧
      crateFiles.isDirectoryAt ["w"] = true ∧ crateListing.Shows crateFiles ["w"] ∧
      ShowsFront (ofPath crateFiles "w") crateListing := by
  have tree : crateFiles.IsTree := by decide +kernel
  have resolved : crateFiles.resolve "w" = .ok ["w"] := by decide +kernel
  have directory : crateFiles.isDirectoryAt ["w"] = true := by decide +kernel
  have own : (Listing.ofPlace crateFiles ["w"]).Shows crateFiles ["w"] :=
    Listing.shows_ofPlace (by decide +kernel)
  have shows : crateListing.Shows crateFiles ["w"] :=
    own.of_perm (by decide +kernel) (by decide +kernel)
  exact ⟨tree, resolved, directory, shows, ofPath_showsFront tree resolved directory shows⟩

def questionFiles : Files :=
  .ofPaths [("w/?/index.html", "<html/>")] []

def questionListing : Listing :=
  ⟨false, [("?", true)]⟩

/-- The redirection to the index of a directory with the name `?` asks for the front page again. -/
theorem respond_questionMark :
    questionListing.Shows questionFiles ["w"] ∧ questionListing.IsOnly "?" ∧
      (ofPath questionFiles "w").respond ⟨"GET", "/"⟩ = .found "/?/index.html" ∧
      (ofPath questionFiles "w").respond ⟨"GET", "/?/index.html"⟩ = .found "/?/index.html" := by
  have own : (Listing.ofPlace questionFiles ["w"]).Shows questionFiles ["w"] :=
    Listing.shows_ofPlace (by decide +kernel)
  have shows : questionListing.Shows questionFiles ["w"] :=
    own.of_perm (by decide +kernel) (by decide +kernel)
  have only : questionListing.IsOnly "?" := ⟨rfl, List.mem_cons_self, by simp [questionListing]⟩
  exact ⟨shows, only, by decide +kernel, by decide +kernel⟩

end Root

end Site

end Dimensional.Docs
