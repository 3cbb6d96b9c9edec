import Mathlib.Data.List.Induction
import Mathlib.Data.List.Infix
import WebGameServer.Library.Path
import WebGameServer.TicTacToe.HttpHandler

namespace WebGameServer
set_option autoImplicit true

/-- The components of an absolute path without links, `.` and `..`. -/
abbrev FilePath := List Text

/-- The component that a name stands for. Empty names come from repeated slashes. -/
def pathStep (name : Text) : PathStep Text :=
  if name = [] ∨ name = ".".toList then .stay
  else if name = "..".toList then .up
  else .down name

/-- A directory, which `std::ifstream` may be able to open, or a regular file with what can be read
from it, if it can be opened. -/
inductive FileEntry where
  | directory (opens : Bool)
  | file (contents : Option Text)

def FileEntry.isDirectory : FileEntry → Bool
  | .directory _ => true
  | .file _ => false

/-- What there is at each path. -/
structure FileSystem where
  entry : FilePath → Option FileEntry
  root : (entry []).any FileEntry.isDirectory = true
  parent : ∀ path name, (entry (path ++ [name])).isSome = true →
    (entry path).any FileEntry.isDirectory = true
  proper : ∀ path name, (entry (path ++ [name])).isSome = true →
    pathStep name = .down name ∧ '/' ∉ name

namespace FileSystem

def contains (fs : FileSystem) (path : FilePath) : Bool := (fs.entry path).isSome

def isDirectory (fs : FileSystem) (path : FilePath) : Bool :=
  (fs.entry path).any FileEntry.isDirectory

/-- The path is that of a regular file that can be read. -/
def isReadable (fs : FileSystem) (path : FilePath) : Prop :=
  ∃ content, fs.entry path = some (.file (some content))

/-- Follows one component, which must lead from a directory to something that exists. -/
def enter (fs : FileSystem) (cur : FilePath) (s : PathStep Text) : Option FilePath :=
  if fs.isDirectory cur = true ∧ fs.contains (s.move cur) = true then some (s.move cur) else none

/-- `std::filesystem::canonical` of an absolute path, with `none` for an exception. -/
def canonical (fs : FileSystem) (names : List Text) : Option FilePath :=
  (names.map pathStep).foldlM fs.enter []

end FileSystem

/-- `cwd / "public_html"`. -/
def staticPath (cwd : FilePath) : FilePath := cwd ++ ["public_html".toList]

/-- `path::string` of a path below the root. -/
def pathString (path : FilePath) : Text := path.flatMap fun name => '/' :: name

/-- The names in `static_path.string() + uri`. -/
def uriNames (cwd : FilePath) (uri : Text) : List Text :=
  (pathString (staticPath cwd) ++ uri).splitOn '/'

/-- The value of `file_path` after the `try` block, if the handler has not returned. -/
def filePath (fs : FileSystem) (cwd : FilePath) (uri : Text) : Option FilePath :=
  if uri = "/".toList then some (staticPath cwd ++ ["index.html".toList])
  else fs.canonical (uriNames cwd uri)

def mimeType (path : FilePath) : Text :=
  if ".js".toList <:+: pathString path then "text/javascript".toList
  else if ".css".toList <:+: pathString path then "text/css".toList
  else if ".html".toList <:+: pathString path then "text/html".toList
  else "text/plain".toList

/-- The last branch of `http_handler`. -/
def serveFile (fs : FileSystem) (cwd : FilePath) (uri : Text) : Response :=
  match filePath fs cwd uri with
  | none => .initial
  | some path =>
    if path < staticPath cwd then { Response.initial with status := some .notFound }
    else
      match fs.entry path with
      | some (.file (some content)) => ⟨some .ok, some (mimeType path), content⟩
      -- The stream is open, but the read throws.
      | some (.directory true) => .initial
      | _ => { Response.initial with status := some .notFound }

/-- The path that a uri names, whether it exists or not. -/
def namedPath (cwd : FilePath) (uri : Text) : FilePath :=
  if uri = "/".toList then staticPath cwd ++ ["index.html".toList]
  else ((uriNames cwd uri).map pathStep).foldl PathStep.move []

/-- A file is returned only from inside of `static_path`. -/
def StaysInside (fs : FileSystem) (cwd : FilePath) (uri : Text) : Prop :=
  ∀ path, filePath fs cwd uri = some path → (serveFile fs cwd uri).status = some .ok →
    staticPath cwd <+: path

section Requests

variable {fs : FileSystem} {cwd path : FilePath} {uri : Text}

theorem enter_eq_some {cur next : FilePath} {s : PathStep Text}
    (h : fs.enter cur s = some next) : next = s.move cur := by
  rw [FileSystem.enter] at h
  split at h
  · exact (Option.some.inj h).symm
  · cases h

theorem foldlM_enter {cur : FilePath} {steps : List (PathStep Text)}
    (h : steps.foldlM fs.enter cur = some path) : path = steps.foldl PathStep.move cur := by
  induction steps generalizing cur with
  | nil => exact (Option.some.inj h).symm
  | cons s steps ih =>
    rw [List.foldlM_cons] at h
    obtain ⟨next, hnext, h⟩ := Option.bind_eq_some_iff.1 h
    rw [ih h, enter_eq_some hnext, List.foldl_cons]

theorem filePath_eq_namedPath (h : filePath fs cwd uri = some path) :
    path = namedPath cwd uri := by
  rw [filePath] at h
  rw [namedPath]
  split at h
  · next hu =>
    rw [if_pos hu]
    exact (Option.some.inj h).symm
  · next hu =>
    rw [if_neg hu]
    exact foldlM_enter h

theorem serveFile_ok_iff (h : filePath fs cwd uri = some path) :
    (serveFile fs cwd uri).status = some .ok ↔
      ¬ path < staticPath cwd ∧ fs.isReadable path := by
  simp only [serveFile, h, FileSystem.isReadable]
  by_cases hlt : path < staticPath cwd
  · simp [hlt, Response.initial]
  · simp only [hlt, ↓reduceIte, not_false_eq_true, true_and]
    cases fs.entry path with
    | none => simp
    | some e =>
      cases e with
      | directory opens => cases opens <;> simp [Response.initial]
      | file contents => cases contents <;> simp

/-- A request is answered from inside of `static_path` only, exactly if what it names is no
readable file beyond `static_path`. -/
theorem staysInside_iff (fs : FileSystem) (cwd : FilePath) (uri : Text) :
    StaysInside fs cwd uri ↔
      ((filePath fs cwd uri).isSome = true → fs.isReadable (namedPath cwd uri) →
        ¬ Beyond (staticPath cwd) (namedPath cwd uri)) := by
  constructor
  · intro h hsome hread hbeyond
    obtain ⟨path, hpath⟩ := Option.isSome_iff_exists.1 hsome
    have hnamed := filePath_eq_namedPath hpath
    subst hnamed
    have hle := not_lt_iff_prefix_or_beyond.2 (.inr hbeyond)
    exact hbeyond.not_prefix (h _ hpath ((serveFile_ok_iff hpath).2 ⟨hle, hread⟩))
  · intro h path hpath hok
    have hnamed := filePath_eq_namedPath hpath
    subst hnamed
    obtain ⟨hle, hread⟩ := (serveFile_ok_iff hpath).1 hok
    have hsome := Option.isSome_iff_exists.2 ⟨_, hpath⟩
    exact (not_lt_iff_prefix_or_beyond.1 hle).resolve_right (h hsome hread)

end Requests

section Reach

variable {fs : FileSystem} {cwd path : FilePath}

theorem contains_of_directory (h : fs.isDirectory path = true) : fs.contains path = true := by
  rw [FileSystem.isDirectory, Option.any_eq_true] at h
  obtain ⟨e, he, -⟩ := h
  exact Option.isSome_iff_exists.2 ⟨e, he⟩

theorem contains_of_readable (h : fs.isReadable path) : fs.contains path = true := by
  obtain ⟨content, hc⟩ := h
  exact Option.isSome_iff_exists.2 ⟨_, hc⟩

theorem contains_proper (h : fs.contains path = true) :
    ∀ name ∈ path, pathStep name = .down name ∧ '/' ∉ name := by
  induction path using List.reverseRecOn with
  | nil => exact List.forall_mem_nil _
  | append_singleton path name ih =>
    have hparent : fs.contains path = true := contains_of_directory (fs.parent path name h)
    intro a ha
    rcases List.mem_append.1 ha with ha | ha
    · exact ih hparent a ha
    · rw [List.mem_singleton.1 ha]
      exact fs.proper path name h

theorem enter_downs (h : fs.contains path = true) :
    (path.map PathStep.down).foldlM fs.enter [] = some path := by
  induction path using List.reverseRecOn with
  | nil => rfl
  | append_singleton path name ih =>
    have hdirectory : fs.isDirectory path = true := fs.parent path name h
    have hparent := contains_of_directory hdirectory
    rw [List.map_append, List.foldlM_append, ih hparent]
    simp only [List.map_singleton, Option.bind_eq_bind, Option.bind_some, List.foldlM_cons,
      List.foldlM_nil, FileSystem.enter, PathStep.move, hdirectory, h, and_self, ↓reduceIte]
    rfl

theorem enter_ups (n : Nat) (h : fs.isDirectory path = true) (hn : path.length ≤ n) :
    (List.replicate n PathStep.up).foldlM fs.enter path = some [] := by
  induction n generalizing path with
  | zero =>
    cases List.eq_nil_of_length_eq_zero (Nat.le_zero.1 hn)
    rfl
  | succ n ih =>
    have hparent : fs.isDirectory path.dropLast = true := by
      cases path using List.reverseRecOn with
      | nil => exact h
      | append_singleton path name =>
        rw [List.dropLast_concat]
        exact fs.parent path name (contains_of_directory h)
    have hlength : path.dropLast.length ≤ n := by
      rw [List.length_dropLast]
      omega
    have henter : fs.enter path .up = some path.dropLast := by
      simp only [FileSystem.enter, PathStep.move, contains_of_directory hparent, h, and_self,
        ↓reduceIte]
    rw [List.replicate_succ, List.foldlM_cons, henter]
    exact ih hparent hlength

theorem pathString_eq_intercalate (path : FilePath) :
    pathString path = ['/'].intercalate ([] :: path) := by
  induction path with
  | nil => rfl
  | cons name path ih =>
    have hcons : pathString (name :: path) = '/' :: (name ++ pathString path) := rfl
    rw [hcons, ih, List.intercalate_cons_cons]
    cases path with
    | nil => simp [List.intercalate]
    | cons name' path => simp [List.intercalate_cons_cons]

theorem splitOn_pathString (h : ∀ name ∈ path, '/' ∉ name) :
    (pathString path).splitOn '/' = [] :: path := by
  rw [pathString_eq_intercalate]
  exact List.splitOn_intercalate '/' (List.forall_mem_cons.2 ⟨List.not_mem_nil, h⟩)
    (List.cons_ne_nil _ _)

def climbingUri (cwd path : FilePath) : Text :=
  pathString ((staticPath cwd).map (fun _ => "..".toList) ++ path)

theorem climbingUri_dispatch (cwd path : FilePath) :
    dispatch "GET".toList (climbingUri cwd path) = .file (climbingUri cwd path) := by
  have hstart : ∃ rest, climbingUri cwd path = '/' :: '.' :: '.' :: rest := by
    cases cwd with
    | nil => exact ⟨_, rfl⟩
    | cons name cwd => exact ⟨_, rfl⟩
  obtain ⟨rest, he⟩ := hstart
  rw [he]
  simp [dispatch]

theorem filePath_climbingUri (hroot : fs.isDirectory (staticPath cwd) = true)
    (hpath : fs.contains path = true) : filePath fs cwd (climbingUri cwd path) = some path := by
  have hstatic := contains_of_directory hroot
  have hne : climbingUri cwd path ≠ "/".toList := by
    cases cwd <;> exact fun he => nomatch he
  have hnames : uriNames cwd (climbingUri cwd path) =
      [] :: (staticPath cwd ++ ((staticPath cwd).map (fun _ => "..".toList) ++ path)) := by
    rw [uriNames, climbingUri, pathString, pathString, ← List.flatMap_append]
    apply splitOn_pathString
    intro name hname
    rcases List.mem_append.1 hname with hname | hname
    · exact (contains_proper hstatic name hname).2
    rcases List.mem_append.1 hname with hname | hname
    · obtain ⟨-, -, rfl⟩ := List.mem_map.1 hname
      decide
    · exact (contains_proper hpath name hname).2
  have hdowns (p : FilePath) (hp : fs.contains p = true) :
      p.map pathStep = p.map PathStep.down :=
    List.map_congr_left fun name hname => (contains_proper hp name hname).1
  have hups : ((staticPath cwd).map fun _ => "..".toList).map pathStep =
      List.replicate (staticPath cwd).length .up := by
    rw [List.map_map]
    exact List.map_const'
  have hstay : fs.enter [] .stay = some [] := by
    exact if_pos ⟨fs.root, contains_of_directory fs.root⟩
  rw [filePath, if_neg hne, FileSystem.canonical, hnames, List.map_cons, List.map_append,
    List.map_append, hdowns _ hstatic, hdowns _ hpath, hups, List.foldlM_cons]
  have hempty : pathStep [] = .stay := rfl
  rw [hempty, hstay, Option.bind_eq_bind, Option.bind_some, List.foldlM_append,
    enter_downs hstatic, Option.bind_eq_bind, Option.bind_some, List.foldlM_append,
    enter_ups _ hroot (Nat.le_refl _), Option.bind_eq_bind, Option.bind_some, enter_downs hpath]

/-- All requests are answered from inside of `static_path` exactly if no readable file lies beyond
it. -/
theorem all_staysInside_iff (hroot : fs.isDirectory (staticPath cwd) = true) :
    (∀ uri, dispatch "GET".toList uri = .file uri → StaysInside fs cwd uri) ↔
      ∀ path, fs.isReadable path → ¬ Beyond (staticPath cwd) path := by
  constructor
  · intro h path hread hbeyond
    have hfile := filePath_climbingUri hroot (contains_of_readable hread)
    have hle := not_lt_iff_prefix_or_beyond.2 (.inr hbeyond)
    have hok := (serveFile_ok_iff hfile).2 ⟨hle, hread⟩
    exact hbeyond.not_prefix (h _ (climbingUri_dispatch cwd path) path hfile hok)
  · intro h uri _ path hpath hok
    obtain ⟨hle, hread⟩ := (serveFile_ok_iff hpath).1 hok
    exact (not_lt_iff_prefix_or_beyond.1 hle).resolve_right (h path hread)

end Reach

/-- The purpose of the check in `http_handler`: what it lets through lies inside of `static_path`.
That is so for a uri exactly if `canonical` throws or the uri names no readable file beyond
`static_path`, and for all of them exactly if there is no such file. -/
theorem static_files_inside_iff (fs : FileSystem) (cwd : FilePath) :
    (∀ uri, StaysInside fs cwd uri ↔
      ((filePath fs cwd uri).isSome = true → fs.isReadable (namedPath cwd uri) →
        ¬ Beyond (staticPath cwd) (namedPath cwd uri))) ∧
    (fs.isDirectory (staticPath cwd) = true →
      ((∀ uri, dispatch "GET".toList uri = .file uri → StaysInside fs cwd uri) ↔
        ∀ path, fs.isReadable path → ¬ Beyond (staticPath cwd) path)) :=
  ⟨staysInside_iff fs cwd, all_staysInside_iff⟩

/-- The entries of the directory `/srv` with an empty `public_html` and a file beside it. -/
def sampleEntries : List (FilePath × FileEntry) :=
  [([], .directory true), (["srv".toList], .directory true),
    (["srv".toList, "public_html".toList], .directory true),
    (["srv".toList, "secret".toList], .file (some "key".toList))]

theorem sampleEntries_cases {path : FilePath} {name : Text}
    (h : (List.lookup (path ++ [name]) sampleEntries).isSome = true) :
    (path = [] ∧ name = "srv".toList) ∨
      (path = ["srv".toList] ∧ (name = "public_html".toList ∨ name = "secret".toList)) := by
  have hinj (p : FilePath) (a : Text) (he : path ++ [name] = p ++ [a]) : path = p ∧ name = a := by
    obtain ⟨hp, ha⟩ := List.append_inj' he rfl
    exact ⟨hp, List.head_eq_of_cons_eq ha⟩
  obtain ⟨e, he⟩ := Option.isSome_iff_exists.1 h
  obtain ⟨pre, post, hsplit, -⟩ := List.lookup_eq_some_iff.1 he
  have hm : (path ++ [name], e) ∈ sampleEntries := by
    rw [hsplit]
    exact List.mem_append_right _ List.mem_cons_self
  simp only [sampleEntries, List.mem_cons, Prod.mk.injEq, List.not_mem_nil, or_false] at hm
  rcases hm with ⟨he, -⟩ | ⟨he, -⟩ | ⟨he, -⟩ | ⟨he, -⟩
  · exact absurd he (List.append_ne_nil_of_right_ne_nil path (List.cons_ne_nil name []))
  · exact .inl (hinj [] _ he)
  · obtain ⟨hp, hn⟩ := hinj ["srv".toList] _ he
    exact .inr ⟨hp, .inl hn⟩
  · obtain ⟨hp, hn⟩ := hinj ["srv".toList] _ he
    exact .inr ⟨hp, .inr hn⟩

def sampleFiles : FileSystem where
  entry path := sampleEntries.lookup path
  root := rfl
  parent path name h := by
    have hcases := sampleEntries_cases h
    rcases hcases with ⟨rfl, -⟩ | ⟨rfl, -⟩ <;> rfl
  proper path name h := by
    have hcases := sampleEntries_cases h
    rcases hcases with ⟨-, rfl⟩ | ⟨-, rfl | rfl⟩ <;> exact ⟨rfl, by decide⟩

-- The request of a directory leaves the response as it is.
example : serveFile sampleFiles ["srv".toList] "/.".toList = .initial := by decide

/-- With a file beside `public_html` only some requests are answered from inside. -/
theorem static_files_inside_iff_srv :
    StaysInside sampleFiles ["srv".toList] "/index.html".toList ∧
      ¬ ∀ uri, dispatch "GET".toList uri = .file uri →
        StaysInside sampleFiles ["srv".toList] uri := by
  obtain ⟨huri, hall⟩ := static_files_inside_iff sampleFiles ["srv".toList]
  have hbeyond : Beyond (staticPath ["srv".toList]) ["srv".toList, "secret".toList] :=
    ⟨["srv".toList], "public_html".toList, "secret".toList, [], [], rfl, rfl, by decide⟩
  constructor
  · apply (huri _).2
    intro hsome
    exact absurd hsome (by decide)
  · intro h
    exact (hall rfl).1 h ["srv".toList, "secret".toList] ⟨"key".toList, rfl⟩ hbeyond

/-- The file beside `public_html` is returned. -/
theorem sibling_file_returned :
    dispatch "GET".toList "/../secret".toList = .file "/../secret".toList ∧
      (serveFile sampleFiles ["srv".toList] "/../secret".toList).body = "key".toList ∧
      ¬ StaysInside sampleFiles ["srv".toList] "/../secret".toList := by
  refine ⟨by decide, by decide, fun h => ?_⟩
  have hinside := h ["srv".toList, "secret".toList] (by decide) (by decide)
  exact absurd hinside (by decide)

end WebGameServer
