import Phrasebook.Proofs.Marks
import Phrasebook.Proofs.Publishing
import Mathlib.Data.Prod.Basic

/-!
# What the index page says

The index page is written from tags and texts (`render_eq`): a skeleton, in which only the
default code is free, and four tags for each language. So a reader of markup finds the default code,
the page that is led on to, and the links again, whatever characters they hold, and there is no
markup beside.
-/

namespace Phrasebook.IndexPage

open Html

/-- The head of the page behind the address that it leads on to, and the body before the links. -/
def middle : List Written :=
  [⟨.opening "title".toList [] false, "Warframe PC Drops (Languages)".toList⟩,
    ⟨.closing "title".toList, "\n".toList⟩,
    ⟨.closing "head".toList, "\n".toList⟩,
    ⟨.opening "body".toList [] false, "\n".toList⟩,
    ⟨.opening "p".toList [] false, "Language / 语言：".toList⟩,
    ⟨.closing "p".toList, "\n".toList⟩,
    ⟨.opening "ul".toList [] false, "\n\n".toList⟩]

/-- What stands before the links. -/
def beginning (default : Text) : List Written :=
  ⟨.declaration "DOCTYPE html".toList, "\n\n".toList⟩
    :: ⟨.opening "html".toList [("lang".toList, default)] false, "\n".toList⟩
    :: ⟨.opening "head".toList [] false, "\n".toList⟩
    :: ⟨.opening "meta".toList [("charset".toList, "utf-8".toList)] true, "\n".toList⟩
    :: ⟨.opening "meta".toList [("content".toList, "0; url=".toList ++ pageName default),
      ("http-equiv".toList, "refresh".toList)] true, "\n".toList⟩
    :: middle

/-- The link to the page of a code. -/
def entry (code native : Text) : List Written :=
  [⟨.opening "li".toList [] false, []⟩,
    ⟨.opening "a".toList [("href".toList, pageName code)] false, native⟩,
    ⟨.closing "a".toList, []⟩,
    ⟨.closing "li".toList, "\n".toList⟩]

/-- What stands behind the links. -/
def ending : List Written :=
  [⟨.closing "ul".toList, "\n".toList⟩,
    ⟨.closing "body".toList, "\n".toList⟩,
    ⟨.closing "html".toList, "\n".toList⟩]

/-- The index page as tags and texts. -/
def written (default : Text) (languages : List Language) : List Written :=
  beginning default ++ languages.flatMap (fun l => entry l.code l.native) ++ ending

/-! ## Writing the page -/

theorem toText_opening (name : Text) (attributes : List (Text × Text)) (closed : Bool)
    (text : Text) : Written.toText ⟨.opening name attributes closed, text⟩
      = '<' :: name ++ attributes.flatMap Tag.attributeText ++ (if closed then ['/'] else [])
        ++ '>' :: escape text := by
  simp [Written.toText, Tag.toText, Tag.inner]

theorem toText_beginning (default : Text) : (beginning default).flatMap Written.toText
    = "<!DOCTYPE html>\n\n<html lang".toList ++ '=' :: quotedValue default
      ++ ">\n<head>\n<meta charset=\"utf-8\"/>\n<meta content=".toList ++ refresh default
      ++ (" http-equiv=\"refresh\"/>\n<title>Warframe PC Drops (Languages)</title>\n</head>\n"
        ++ "<body>\n<p>Language / 语言：</p>\n<ul>\n").toList ++ ['\n'] := by
  have hdoctype : "<!DOCTYPE html>\n\n<html lang".toList
      = Written.toText ⟨.declaration "DOCTYPE html".toList, "\n\n".toList⟩
        ++ "<html lang".toList := by
    decide +kernel
  have hcharset : ">\n<head>\n<meta charset=\"utf-8\"/>\n<meta content=".toList
      = '>' :: escape "\n".toList
        ++ Written.toText ⟨.opening "head".toList [] false, "\n".toList⟩
        ++ Written.toText
          ⟨.opening "meta".toList [("charset".toList, "utf-8".toList)] true, "\n".toList⟩
        ++ "<meta content=".toList := by
    decide +kernel
  have hmiddle :
      (" http-equiv=\"refresh\"/>\n<title>Warframe PC Drops (Languages)</title>\n</head>\n"
        ++ "<body>\n<p>Language / 语言：</p>\n<ul>\n").toList ++ ['\n']
      = Tag.attributeText ("http-equiv".toList, "refresh".toList)
        ++ '/' :: '>' :: escape "\n".toList ++ middle.flatMap Written.toText := by
    decide +kernel
  rw [hdoctype, hcharset, List.append_assoc _ _ ['\n'], hmiddle]
  simp [beginning, toText_opening, refresh, Tag.attributeText]

theorem toText_ending :
    '\n' :: ending.flatMap Written.toText = "\n</ul>\n</body>\n</html>\n".toList := by
  decide +kernel

theorem toText_entry (l : Language) :
    '\n' :: (entry l.code l.native).flatMap Written.toText = item l ++ ['\n'] := by
  unfold item
  simp [entry, Written.toText, Tag.toText, Tag.inner, Tag.attributeText, escape, escapeChar]

/-- The line that an item begins ends the one before. -/
theorem toText_entries : ∀ languages : List Language,
    '\n' :: (languages.flatMap fun l => entry l.code l.native).flatMap Written.toText
      = languages.flatMap item ++ ['\n']
  | [] => rfl
  | l :: languages => by
    rw [List.flatMap_cons, List.flatMap_cons, List.flatMap_append, ← List.cons_append, toText_entry,
      List.append_assoc, List.append_assoc, List.singleton_append, toText_entries languages]

theorem render_eq (default : Text) (languages : List Language) :
    render default languages = (written default languages).flatMap Written.toText := by
  unfold render renderIn
  rw [written, List.flatMap_append, List.flatMap_append, toText_beginning, ← toText_ending]
  have hentries (rest : Text) : languages.flatMap item ++ '\n' :: rest = '\n'
      :: (languages.flatMap fun l => entry l.code l.native).flatMap Written.toText ++ rest := by
    rw [toText_entries, List.append_cons]
  rw [List.append_assoc _ (languages.flatMap item), hentries]
  simp only [Option.map_some, Option.getD_some, List.append_assoc, List.cons_append,
    List.nil_append]

/-! ## Reading the page -/

theorem named_beginning (default : Text) : ∀ w ∈ beginning default, w.tag.Named := by
  have hlang : (Tag.opening "html".toList [("lang".toList, default)] false).Named := by
    show IsName _ ∧ ∀ key ∈ ["lang".toList], key.all isAttributeChar = true
    decide +kernel
  have hrefresh : (Tag.opening "meta".toList
      [("content".toList, "0; url=".toList ++ pageName default),
        ("http-equiv".toList, "refresh".toList)] true).Named := by
    show IsName _ ∧ ∀ key ∈ ["content".toList, "http-equiv".toList], key.all isAttributeChar = true
    decide +kernel
  simp only [beginning, List.forall_mem_cons]
  exact ⟨by decide +kernel, hlang, by decide +kernel, by decide +kernel, hrefresh,
    by decide +kernel⟩

theorem named_entry (code native : Text) : ∀ w ∈ entry code native, w.tag.Named := by
  have hlink : (Tag.opening "a".toList [("href".toList, pageName code)] false).Named := by
    show IsName _ ∧ ∀ key ∈ ["href".toList], key.all isAttributeChar = true
    decide +kernel
  simp only [entry, List.forall_mem_cons]
  exact ⟨by decide +kernel, hlink, by decide +kernel, by decide +kernel, by simp⟩

theorem named_written (default : Text) (languages : List Language) :
    ∀ w ∈ written default languages, w.tag.Named := by
  have hending : ∀ w ∈ ending, w.tag.Named := by
    decide +kernel
  intro w hw
  rw [written, List.mem_append, List.mem_append, List.mem_flatMap] at hw
  rcases hw with (hw | ⟨l, -, hw⟩) | hw
  · exact named_beginning default w hw
  · exact named_entry l.code l.native w hw
  · exact hending w hw

/-- The languages that a page says to be in. -/
def langs (page : Text) : List Text :=
  (marks page).filterMap (·.value? "html".toList "lang".toList)

/-- What a page leads on to, with the time until then. -/
def targets (page : Text) : List Text :=
  (marks page).filterMap (·.value? "meta".toList "content".toList)

/-- The link that a tag begins: its address and its text. -/
def link? (m : Mark) : Option (Text × Text) := do
  return (← m.value? "a".toList "href".toList, ← m.text)

def links (page : Text) : List (Text × Text) :=
  (marks page).filterMap link?

/-- What is read off the page is what its beginning and then the links say. -/
theorem filterMap_marks {α : Type} {f : Mark → Option α} {g : Language → List α} {default : Text}
    {found : List α} (hbeginning : (beginning default).filterMap (f ∘ Written.mark) = found)
    (hentry : ∀ l, (entry l.code l.native).filterMap (f ∘ Written.mark) = g l)
    (hending : ending.filterMap (f ∘ Written.mark) = []) (languages : List Language) :
    (marks (render default languages)).filterMap f = found ++ languages.flatMap g := by
  have hentries : (languages.flatMap fun l => entry l.code l.native).filterMap (f ∘ Written.mark)
      = languages.flatMap g := by
    rw [List.filterMap_flatMap]
    simp only [hentry]
  rw [render_eq, Written.marks_flatMap_toText (named_written default languages), List.filterMap_map,
    written, List.filterMap_append, List.filterMap_append, hbeginning, hentries, hending,
    List.append_nil]

theorem langs_render (default : Text) (languages : List Language) :
    langs (render default languages) = [default] := by
  have hlangs : langs (render default languages) = [default] ++ languages.flatMap fun _ => [] :=
    filterMap_marks rfl (fun _ => rfl) rfl languages
  rw [hlangs]
  simp

theorem targets_render (default : Text) (languages : List Language) :
    targets (render default languages) = ["0; url=".toList ++ pageName default] := by
  have htargets : targets (render default languages)
      = ["0; url=".toList ++ pageName default] ++ languages.flatMap fun _ => [] :=
    filterMap_marks rfl (fun _ => rfl) rfl languages
  rw [htargets]
  simp

theorem links_render (default : Text) (languages : List Language) :
    links (render default languages) = languages.map fun l => (pageName l.code, l.native) := by
  have hlinks : links (render default languages)
      = [] ++ languages.flatMap fun l => [(pageName l.code, l.native)] :=
    filterMap_marks rfl (fun _ => rfl) rfl languages
  rw [hlinks, List.nil_append, List.map_eq_flatMap]

theorem length_written (default : Text) (languages : List Language) :
    (written default languages).length = 15 + 4 * languages.length := by
  have hbeginning : (beginning default).length = 12 := rfl
  have hentry (l : Language) : (entry l.code l.native).length = 4 := rfl
  have hending : ending.length = 3 := rfl
  simp only [written, List.length_append, List.length_flatMap, hbeginning, hentry, hending,
    List.map_const', List.sum_replicate_nat]
  omega

/-- What the links of the page depend on. -/
def linked (languages : List Language) : List (Text × Text) :=
  languages.map fun l => (l.code, l.native)

theorem render_congr {default : Text} {languages others : List Language}
    (h : linked languages = linked others) : render default languages = render default others := by
  have hentries (ls : List Language) : ls.flatMap (fun l => entry l.code l.native)
      = (linked ls).flatMap fun p => entry p.1 p.2 := by
    rw [linked, List.flatMap_map]
  rw [render_eq, render_eq, written, written, hentries, hentries, h]

theorem eq_of_render_eq {default other : Text} {languages others : List Language}
    (h : render default languages = render other others) :
    default = other ∧ linked languages = linked others := by
  have hlangs := langs_render default languages
  have hlinks := links_render default languages
  rw [h, langs_render] at hlangs
  rw [h, links_render] at hlinks
  refine ⟨(List.singleton_inj.1 hlangs).symm, ?_⟩
  have hpages (ls : List Language) : ls.map (fun l => (pageName l.code, l.native))
      = (linked ls).map (Prod.map pageName id) := by
    simp [linked]
  rw [hpages, hpages] at hlinks
  have hinj : Function.Injective (Prod.map pageName (id : Text → Text)) :=
    Function.Injective.prodMap (fun _ _ => Publication.pageName_inj) Function.injective_id
  exact (List.map_injective_iff.2 hinj hlinks).symm

theorem indexPage_of_text {settings : Settings} {default : Text} (languages : List Language)
    (h : settings.defaultLanguage = .text default) :
    Publication.indexPage settings languages = pure (render default languages) := by
  rw [Publication.indexPage, h]
  rfl

/-- The index page is a skeleton with the default code and the links in it. It has no other tags
than the skeleton and four for each language, in their order, and when it is read it gives back the
default code, the page that it leads on to, and the addresses and names of the links, whatever
characters these hold. So two inputs give one page just if the default codes are equal and the codes
and native names of the languages. -/
theorem read_render (default : Text) (languages : List Language) :
    let page := render default languages
    (∀ settings : Settings, settings.defaultLanguage = .text default →
      Publication.indexPage settings languages = pure page)
    ∧ (page = (written default languages).flatMap Written.toText
      ∧ page.count '<' = 15 + 4 * languages.length
      ∧ marks page = (written default languages).map Written.mark)
    ∧ (langs page = [default]
      ∧ targets page = ["0; url=".toList ++ pageName default]
      ∧ links page = languages.map fun l => (pageName l.code, l.native))
    ∧ ∀ other others, page = render other others
      ↔ default = other ∧ linked languages = linked others := by
  intro page
  have hpage : page = (written default languages).flatMap Written.toText :=
    render_eq default languages
  have hnamed := named_written default languages
  refine ⟨fun settings => indexPage_of_text languages, ⟨hpage, ?_, ?_⟩,
    ⟨langs_render default languages, targets_render default languages,
      links_render default languages⟩,
    fun other others => ⟨eq_of_render_eq, ?_⟩⟩
  · rw [hpage, Written.count_flatMap_toText hnamed, length_written]
  · rw [hpage, Written.marks_flatMap_toText hnamed]
  · rintro ⟨rfl, h⟩
    exact render_congr h

end Phrasebook.IndexPage
