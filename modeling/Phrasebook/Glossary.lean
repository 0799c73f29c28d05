import Phrasebook.Vocabulary

/-!
# Glossaries

A glossary gives for phrases of one language their glosses, which say the same in another. It is
made from the vocabularies of both: a phrase of the first has as its gloss what the second holds
under the same identifier. A gloss that is empty, or the phrase itself, is left out. If a phrase
stands under several identifiers, the first with a gloss counts.
-/

namespace Phrasebook

/-- Whether an entry of a glossary says anything. -/
def isGloss (e : WideText × WideText) : Bool :=
  !e.1.isEmpty && !e.2.isEmpty && e.2 != e.1

structure Glossary where
  table : Keyed WideText
  meaningful : ∀ e ∈ table.entries, isGloss e = true

namespace Glossary

/-- The glossary of the entries that say something; the first for a phrase counts. -/
def ofEntries (entries : List (WideText × WideText)) : Glossary where
  table := .ofFirsts (entries.filter isGloss)
  meaningful e he := by
    rcases Keyed.mem_of_mem_firstsAfter he with h | h
    · cases h
    · exact (List.mem_filter.1 h).2

/-- The phrase under an identifier with what the other vocabulary holds there, if both are texts. -/
def pairing? (target : Vocabulary) (e : WideText × Json) : Option (WideText × WideText) :=
  match e.2.text?, (target.get? e.1).bind Value.text? with
  | some phrase, some gloss => some (phrase, gloss)
  | _, _ => none

def ofVocabularies (source target : Vocabulary) : Glossary :=
  ofEntries (source.entries.filterMap (pairing? target))

def entries (g : Glossary) : List (WideText × WideText) :=
  g.table.entries

def get? (g : Glossary) (phrase : WideText) : Option WideText :=
  g.table.get? phrase

/-- A phrase has no gloss. -/
structure Missing where
  phrase : WideText

def Missing.message (m : Missing) : Text :=
  m.phrase.quoted

def find (g : Glossary) (phrase : WideText) : Except Missing WideText :=
  match g.get? phrase with
  | some gloss => .ok gloss
  | none => .error ⟨phrase⟩

def size (g : Glossary) : Nat :=
  g.table.size

/-- The glossary named by its size. -/
def summary (g : Glossary) : Text :=
  "TranslationIndex(".toList ++ Text.decimal g.size ++ " entries)".toList

end Glossary

end Phrasebook
