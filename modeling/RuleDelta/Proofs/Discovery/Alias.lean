import RuleDelta.Discovery.TreeLink
import RuleDelta.Proofs.Diff.Listing
import RuleDelta.Proofs.Change.Pairing
import RuleDelta.Proofs.Discovery.Files
import RuleDelta.Proofs.Discovery.Finder
import RuleDelta.Proofs.FileTree.Resolve

/-!
# Rules that links lead to

A rule is reported under its own path, and again under the path of each link of the working tree
that leads to its file. The paths differ, unless the changed file is itself such a link: then the
rule is read through the link and reported under it, and the link in the tree adds it once more
under the same path (`Finder.linkAliases_of_treeAliases`).

* `FileTree.HasLink` says what the links of a tree are, and `FileTree.path_ne_target` that none of
  them leads to its own path;
* `Entry.AgainUnderOwnPath` is an entry that comes twice under one path.
-/

namespace RuleDelta

open RuleFile Text

/-! ## Links of a tree -/

namespace FileTree

/-- No name holds a backslash, which is written as a slash in the paths of links. -/
def NoBackslash (t : FileTree) : Prop :=
  ∀ name, t.HasName name → '\\' ∉ name

/-- The path of a place tells it from all others below the root. -/
theorem eq_of_relativePath?_eq {t : FileTree} (ht : t.Named) (hplain : t.NoBackslash)
    {root place place' : Place} {path : String} (hne : place ≠ root)
    (hnamed : ∀ name ∈ place, t.HasName name) (hnamed' : ∀ name ∈ place', t.HasName name)
    (h : relativePath? root place = some path) (h' : relativePath? root place' = some path) :
    place' = place := by
  unfold relativePath? at h h'
  obtain ⟨names, hnames, rfl⟩ := Option.map_eq_some_iff.mp h
  obtain ⟨names', hnames', hpath⟩ := Option.map_eq_some_iff.mp h'
  rw [List.isPrefixOf?_eq_some_iff_append_eq] at hnames hnames'
  subst hnames hnames'
  have hnamed := fun name hname => hnamed name (List.mem_append_right root hname)
  have hnamed' := fun name hname => hnamed' name (List.mem_append_right root hname)
  rw [String.ofList_inj, Path.normalize_eq_self, Path.normalize_eq_self] at hpath
  · rw [eq_of_intercalate_eq (by simpa using hne) (fun hempty => ht.ne_nil (hnamed [] hempty))
      (fun name hname => ht.noSlash name (hnamed name hname))
      (fun name hname => ht.noSlash name (hnamed' name hname)) hpath.symm]
  · exact not_mem_intercalate (by decide) fun name hname => hplain name (hnamed name hname)
  · exact not_mem_intercalate (by decide) fun name hname => hplain name (hnamed' name hname)

/-- The tree has this link: it stands at a place below the root, and it leads to a place below
it. -/
def HasLink (t : FileTree) (root : Place) (link : TreeLink) : Prop :=
  ∃ place text target, (place, .link text) ∈ t.nodes ∧ place ≠ root ∧
    t.resolve [] place.render = .ok target ∧ relativePath? root place = some link.path ∧
    relativePath? root target = some link.target

variable {t : FileTree} {here root : Place} {path : List Char} {links : List TreeLink}

theorem mem_linksBelow {place : Place} {text : List Char}
    (h : (place, text) ∈ t.linksBelow root) :
    (place, .link text) ∈ t.nodes ∧ isVisited root place = true := by
  unfold linksBelow at h
  obtain ⟨⟨place', node⟩, hnode, hfound⟩ := List.mem_filterMap.mp (List.mem_mergeSort.mp h)
  cases node with
  | directory => cases hfound
  | file => cases hfound
  | link target =>
    simp only at hfound
    split at hfound
    · rename_i hvisited
      obtain ⟨rfl, rfl⟩ := Prod.mk.inj (Option.some.inj hfound)
      exact ⟨hnode, hvisited⟩
    · cases hfound

theorem ne_of_isVisited {place : Place} (h : isVisited root place = true) : place ≠ root := by
  rintro rfl
  have hself : place.isPrefixOf? place = some [] :=
    List.isPrefixOf?_eq_some_iff_append_eq.mpr (List.append_nil place)
  rw [isVisited, hself] at h
  cases h

theorem hasLink_of_treeLink? {place : Place} {text : List Char} {link : TreeLink}
    (hbelow : (place, text) ∈ t.linksBelow root)
    (h : t.treeLink? root place = .ok (some link)) : t.HasLink root link := by
  obtain ⟨hnode, hvisited⟩ := mem_linksBelow hbelow
  unfold treeLink? at h
  cases htarget : t.resolve [] place.render with
  | error fault => rw [htarget] at h; cases h
  | ok target =>
    rw [htarget] at h
    have h := Except.ok.inj h
    simp only [Option.bind_eq_bind, Option.bind_eq_some_iff, Option.pure_def] at h
    obtain ⟨from', hfrom, to', hto, hlink⟩ := h
    obtain rfl := Option.some.inj hlink
    exact ⟨place, text, target, hnode, ne_of_isVisited hvisited, htarget, hfrom, hto⟩

/-- The links that are found are links of the tree. -/
theorem hasLink_of_findLinks (h : t.findLinks here path = .ok links) :
    ∃ root, ∀ link ∈ links, t.HasLink root link := by
  unfold findLinks at h
  split at h
  · cases h
  rename_i root hroot
  refine ⟨root, fun link hlink => ?_⟩
  change ((t.linksBelow root).mapM fun below => t.treeLink? root below.1).bind _ = _ at h
  cases hmap : (t.linksBelow root).mapM fun below => t.treeLink? root below.1 with
  | error e => rw [hmap] at h; cases h
  | ok found =>
    rw [hmap] at h
    obtain rfl : found.filterMap id = links := Except.ok.inj h
    obtain ⟨found?, hfound, rfl⟩ := List.mem_filterMap.mp hlink
    have hread := Diff.mapM_eq_ok_iff _ |>.mp hmap
    have hmem : (.ok (some link) : Except Error (Option TreeLink)) ∈ found.map .ok :=
      List.mem_map_of_mem hfound
    rw [← hread] at hmem
    obtain ⟨⟨place, text⟩, hbelow, htree⟩ := List.mem_map.mp hmem
    exact hasLink_of_treeLink? hbelow htree

/-- **No link of a tree leads to its own path.** -/
theorem path_ne_target (ht : t.Named) (hplain : t.NoBackslash) {link : TreeLink}
    (h : t.HasLink root link) : link.path ≠ link.target := by
  obtain ⟨place, text, target, hnode, hne, htarget, hpath, hleads⟩ := h
  intro heq
  have hreal := real_of_resolve (real_top t) htarget
  rw [heq] at hpath
  obtain rfl := eq_of_relativePath?_eq ht hplain hne (fun name hname => ⟨_, hnode, hname⟩)
    hreal.named hpath hleads
  have hbelow : target ≠ [] := by
    rintro rfl
    obtain ⟨names, hnames, -⟩ := Option.map_eq_some_iff.mp hpath
    rw [List.isPrefixOf?_eq_some_iff_append_eq, List.append_eq_nil_iff] at hnames
    exact hne hnames.1.symm
  exact hreal.unlinked target List.prefix_rfl text (ht.node?_eq hnode hbelow)

end FileTree

/-! ## Entries and their aliases -/

/-- The links lead to the entry again under the path that it is reported under. -/
def Entry.AgainUnderOwnPath (links : List TreeLink) (e : Entry) : Prop :=
  ∃ a ∈ aliasesOf links [e], a.reportedPath = e.reportedPath

/-- One of the links leads from the path of the changed file to that of its content. -/
def FileChange.IsLinkAmong (links : List TreeLink) (change : FileChange) : Prop :=
  (⟨change.after.name, change.after.effective⟩ : TreeLink) ∈ links

section

variable {links : List TreeLink} {e : Entry} {change : FileChange}

/-- Each link to the file of an entry leads to it, unless the entry is gone. -/
theorem mem_aliasesOf_singleton {a : Entry} : a ∈ aliasesOf links [e] ↔
    e.state ≠ .removed ∧ e.pathError = none ∧
      ∃ link ∈ links, link.target = e.sourcePath ∧ a = e.reportedAs link.path := by
  unfold aliasesOf
  rw [List.flatMap_singleton]
  by_cases hnone : e.state = .removed ∨ e.pathError.isSome = true
  · rw [if_pos (by simpa using hnone)]
    refine iff_of_false (by simp) ?_
    rintro ⟨hstate, herror, -⟩
    rcases hnone with hremoved | hfault
    · exact hstate hremoved
    · rw [herror] at hfault
      cases hfault
  · rw [if_neg (by simpa using hnone)]
    obtain ⟨hstate, herror⟩ := not_or.mp hnone
    simp only [List.mem_map, List.mem_filter, beq_iff_eq, and_assoc, eq_comm (a := a)]
    exact ⟨fun h => ⟨hstate, by simpa using herror, h⟩, fun h => h.2.2⟩

/-- An entry comes again under its own path when a link leads from there to its file. -/
theorem againUnderOwnPath_iff : e.AgainUnderOwnPath links ↔
    e.state ≠ .removed ∧ e.pathError = none ∧
      (⟨e.reportedPath, e.sourcePath⟩ : TreeLink) ∈ links := by
  unfold Entry.AgainUnderOwnPath
  constructor
  · rintro ⟨a, ha, hpath⟩
    obtain ⟨hstate, herror, ⟨path, target⟩, hlink, rfl, rfl⟩ := mem_aliasesOf_singleton.mp ha
    obtain rfl : path = e.reportedPath := hpath
    exact ⟨hstate, herror, hlink⟩
  · rintro ⟨hstate, herror, hlink⟩
    exact ⟨_, mem_aliasesOf_singleton.mpr ⟨hstate, herror, _, hlink, rfl, rfl⟩, rfl⟩

/-- A changed file that is no link is not among the links, since none leads to its own path. -/
theorem target?_of_isLinkAmong (hlinks : ∀ link ∈ links, link.path ≠ link.target)
    (h : change.IsLinkAmong links) : change.after.target?.isSome = true := by
  rw [FileChange.IsLinkAmong, SidePath.effective] at h
  cases htarget : change.after.target? with
  | none =>
    rw [htarget] at h
    exact absurd rfl (hlinks _ h)
  | some target => rfl

theorem paths_of_classify {p : Pairing} (h : classify change p = some e) : e.state = .removed ∨
    ∃ a, p.after? = some a ∧ e.sourcePath = a.sourcePath ∧ e.reportedPath = a.reportedPath ∧
      e.pathError = a.pathError := by
  unfold classify at h
  split at h
  · rename_i a _ ha
    obtain rfl := Option.some.inj h
    exact .inr ⟨a, ha, rfl, rfl, rfl⟩
  · rename_i a _ ha
    obtain rfl := Option.some.inj h
    refine .inr ⟨a, ha, ?_⟩
    unfold Pairing.keptEntry
    split
    · exact ⟨rfl, rfl, rfl⟩
    · split <;> exact ⟨rfl, rfl, rfl⟩
  · obtain rfl := Option.some.inj h
    exact .inl rfl
  · cases h

end

namespace Finder

variable {f : Finder} {reader : YamlReader} {change : FileChange} {links : List TreeLink}

/-- An entry of a changed file is gone, or it is read from the new side and shown under its path. -/
theorem Yields.paths {entries : List Entry} {events : List Event}
    (hparser : f.parser = parseWith reader) (h : f.Yields change entries events) :
    ∀ e ∈ entries, e.state = .removed ∨ e.sourcePath = change.after.effective ∧
      e.reportedPath = change.after.name ∧ e.pathError = none := by
  cases h with
  | skipped => exact nofun
  | @read before after allowed old new =>
    rw [parseAfter, hparser] at new
    obtain ⟨rules, -, rfl⟩ := parseWith_eq_ok new
    intro e he
    obtain ⟨p, hp, hclassified⟩ := List.mem_filterMap.mp he
    refine (paths_of_classify hclassified).imp_right ?_
    rintro ⟨a, ha, hsource, hreported, herror⟩
    obtain ⟨r, -, rfl⟩ := List.mem_map.mp ((mem_of_mem_pairEntries hp).2 a ha)
    exact ⟨hsource, hreported, herror⟩

/-- The entries of a changed file, and which of them links lead to again under the same path. -/
structure OwnPathAliases (f : Finder) (links : List TreeLink) (change : FileChange)
    (entries : List Entry) : Prop where
  yields : ∃ events, f.Yields change entries events
  again : ∀ e ∈ entries, e.AgainUnderOwnPath links ↔
    e.state ≠ .removed ∧ change.IsLinkAmong links

theorem Yields.ownPathAliases {entries : List Entry} {events : List Event}
    (hparser : f.parser = parseWith reader) (h : f.Yields change entries events) :
    f.OwnPathAliases links change entries where
  yields := ⟨events, h⟩
  again e he := by
    rw [againUnderOwnPath_iff, FileChange.IsLinkAmong]
    rcases h.paths hparser e he with hremoved | ⟨hsource, hreported, herror⟩
    · exact iff_of_false (fun h => h.1 hremoved) fun h => h.1 hremoved
    · rw [hsource, hreported, herror]
      simp

theorem YieldsAll.exists_blocks {files : List FileChange} {found : List Entry}
    {events : List Event} (hparser : f.parser = parseWith reader)
    (h : f.YieldsAll files found events) :
    ∃ blocks, found = blocks.flatten ∧ List.Forall₂ (f.OwnPathAliases links) files blocks := by
  induction h with
  | nil => exact ⟨[], rfl, .nil⟩
  | @cons change rest entries others events later first _ ih =>
    obtain ⟨blocks, rfl, hblocks⟩ := ih
    exact ⟨entries :: blocks, rfl, .cons (first.ownPathAliases hparser) hblocks⟩

/-- What the links of a tree lead to among the entries of some changed files. -/
structure LinkAliases (f : Finder) (t : FileTree) (links : List TreeLink) (files : List FileChange)
    (blocks : List (List Entry)) (aliases : List Entry) : Prop where
  /-- Each changed file has its entries. -/
  own : List.Forall₂ (f.OwnPathAliases links) files blocks
  /-- The aliases are those of the entries, one entry after the other. -/
  aliases_eq : aliases = blocks.flatten.flatMap fun e => aliasesOf links [e]
  /-- The entries that come again under their own path are those behind a link. -/
  linked : t.NoBackslash → ∀ change ∈ files, change.IsLinkAmong links →
    change.after.target?.isSome = true

/-- **An entry comes again under its own path exactly when the changed file is a link of the working
tree**, and it is not gone. All other aliases have another path than their entry. -/
theorem linkAliases_of_treeAliases {t : FileTree} {here : Place} {root : List Char}
    {files : List FileChange} {found aliases : List Entry} {events : List Event} (ht : t.Named)
    (hparser : f.parser = parseWith reader) (hresolver : f.resolver = treeAliases t here root)
    (hyields : f.YieldsAll files found events) (hresolved : f.resolver found = .ok aliases) :
    ∃ links blocks, t.findLinks here root = .ok links ∧ found = blocks.flatten ∧
      f.LinkAliases t links files blocks aliases := by
  rw [hresolver, treeAliases] at hresolved
  cases hfound : t.findLinks here root with
  | error e => rw [hfound] at hresolved; cases hresolved
  | ok links =>
    rw [hfound] at hresolved
    obtain rfl : aliasesOf links found = aliases := Except.ok.inj hresolved
    obtain ⟨top, htop⟩ := FileTree.hasLink_of_findLinks hfound
    obtain ⟨blocks, rfl, hblocks⟩ := hyields.exists_blocks hparser
    refine ⟨links, blocks, rfl, rfl, hblocks, ?_, fun hplain change _ hamong => ?_⟩
    · simp only [aliasesOf, List.flatMap_singleton]
    · exact target?_of_isLinkAmong
        (fun link hlink => FileTree.path_ne_target ht hplain (htop link hlink)) hamong

end Finder

/-- A rule file and a link to it. -/
def linkedTree : FileTree where
  nodes :=
    [(["rules".toList], .directory),
      (["rules".toList, "a.yml".toList], .file renamedContent),
      (["rules".toList, "l.yml".toList], .link "a.yml".toList)]

/-- The finder of the usual configuration in that tree. -/
def linkedFinder : Finder where
  runner _ := .ok (.ofText [])
  parser := RuleFile.parse
  resolver := treeAliases linkedTree [] ['/']
  baseBranch := "main"
  maxCommits := 20
  filter := ⟨[], []⟩
  relaxed := []

/-- The link is new. -/
def linkedChange : FileChange where
  before := .ofFile "rules/l.yml"
  after := ⟨"rules/l.yml", some "rules/a.yml"⟩
  bodyBefore := []
  bodyAfter := renamedContent
  modifiedLines := [1]
  commits := ["c"]

/-- The entry of the rule behind the link. -/
def linkedEntry : Entry where
  sourcePath := "rules/a.yml"
  reportedPath := "rules/l.yml"
  rule := ⟨"x", .alerting, .single 2, .mapping [(.string "alert", .string "x")]⟩
  state := .added
  modifiedLines := []
  pathError := none

theorem named_linkedTree : linkedTree.Named where
  once := by decide
  ne_nil := by
    have hall : ∀ node ∈ linkedTree.nodes, [] ∉ node.1 := by decide
    rintro ⟨node, hnode, hname⟩
    exact hall node hnode hname
  noSlash := by
    have hall : ∀ node ∈ linkedTree.nodes, ∀ name ∈ node.1, '/' ∉ name := by decide
    rintro name ⟨node, hnode, hname⟩
    exact hall node hnode name hname

theorem yields_linkedChange :
    linkedFinder.YieldsAll [linkedChange] [linkedEntry] [.classified linkedEntry] := by
  have hbefore : linkedFinder.parseBefore linkedChange = .ok [] := by cbv
  have hafter : linkedFinder.parseAfter linkedChange =
      .ok [{ linkedEntry with state := .unknown, modifiedLines := [2] }] := by cbv
  exact .cons (.read rfl (.inl hbefore) hafter) .nil

/-- The only alias of the entry is the entry itself. -/
theorem resolver_linkedFinder : linkedFinder.resolver [linkedEntry] = .ok [linkedEntry] := by
  have hlinks : linkedTree.findLinks [] ['/'] = .ok [⟨"rules/l.yml", "rules/a.yml"⟩] := by cbv
  change (linkedTree.findLinks [] ['/']).map _ = _
  rw [hlinks]
  rfl

theorem linkAliases_linkedFinder :
    linkedTree.Named ∧
      linkedFinder.YieldsAll [linkedChange] [linkedEntry] [.classified linkedEntry] ∧
      linkedFinder.resolver [linkedEntry] = .ok [linkedEntry] ∧
      ∃ links blocks, linkedTree.findLinks [] ['/'] = .ok links ∧ [linkedEntry] = blocks.flatten ∧
        linkedFinder.LinkAliases linkedTree links [linkedChange] blocks [linkedEntry] :=
  ⟨named_linkedTree, yields_linkedChange, resolver_linkedFinder,
    Finder.linkAliases_of_treeAliases named_linkedTree rfl rfl
      yields_linkedChange resolver_linkedFinder⟩

/-- A rule that is read through a new link is reported twice under the path of the link. -/
theorem linkedEntry_again :
    linkedFinder.YieldsAll [linkedChange] [linkedEntry] [.classified linkedEntry] ∧
      ∃ aliases, linkedFinder.resolver [linkedEntry] = .ok aliases ∧
        ∃ a ∈ aliases, a = linkedEntry.reportedAs "rules/l.yml" ∧
          a.reportedPath = linkedEntry.reportedPath :=
  ⟨yields_linkedChange, _, resolver_linkedFinder, linkedEntry, List.mem_singleton_self _, rfl, rfl⟩

end RuleDelta
