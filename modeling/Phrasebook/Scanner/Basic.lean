import Phrasebook.Scanner.Trie

/-!
# Scanners

A scanner finds phrases. It is an automaton whose states are the nodes of a trie. Besides the trie
it has for each node a fallback and a list of matches. The fallback is the node of the longest
proper suffix of the node's text that is itself a node; the matches are all phrases that are
suffixes of that text, longest first. Both are worked out in the order of depth, so that what is
read was worked out before.
-/

namespace Phrasebook

structure Scanner where
  phrases : Array WideText
  trie : Scanner.Trie
  fallback : Array Nat
  outputs : Array (List Scanner.Match)

namespace Scanner

/-- The node reached from `n` by `c`: its child, or else that of the nearest fallback that has one,
or else the root. The fuel bounds the number of fallbacks and is the depth of `n` at least. -/
def Trie.follow (t : Trie) (fallback : Array Nat) (c : CodePoint) : (fuel : Nat) → (n : Nat) → Nat
  | 0, _ => (t.child? 0 c).getD 0
  | fuel + 1, n => match t.child? n c with
    | some m => m
    | none => if n = 0 then 0 else t.follow fallback c fuel (fallback.getD n 0)

/-- The nodes below the root in the order of depth. -/
def Trie.byDepth (t : Trie) : List Nat :=
  (List.range' 1 (t.size - 1)).mergeSort fun m n => t.depth m ≤ t.depth n

/-- The fallbacks and the matches worked out so far. -/
structure Links where
  fallback : Array Nat
  outputs : Array (List Match)

/-- Works out the fallback and the matches of a node whose parent's are known. -/
def Links.visit (t : Trie) (links : Links) (n : Nat) : Links :=
  match t.nodes[n]? with
  | none => links
  | some node =>
    let target :=
      if node.parent = 0 then 0
      else
        let start := links.fallback.getD node.parent 0
        t.follow links.fallback node.label (t.depth start) start
    let found := links.outputs.getD target []
    ⟨links.fallback.setIfInBounds n target, links.outputs.modify n (· ++ found)⟩

def Links.ofTrie (t : Trie) : Links :=
  t.byDepth.foldl (Links.visit t) ⟨Array.replicate t.size 0, t.nodes.map Node.ends⟩

/-- The scanner of a list of phrases, which keep their places. Empty phrases never match. -/
def ofPhrases (phrases : List WideText) : Scanner :=
  let trie := Trie.ofPhrases phrases
  let links := Links.ofTrie trie
  ⟨phrases.toArray, trie, links.fallback, links.outputs⟩

/-- The number of nodes, the root among them. -/
def size (s : Scanner) : Nat :=
  s.trie.size

/-- The phrase at a signed offset of the list. -/
def phraseAt (s : Scanner) (i : Int) : Except Text.Outside WideText :=
  Text.itemAt .phrases s.phrases i

def next (s : Scanner) (n : Nat) (c : CodePoint) : Nat :=
  s.trie.follow s.fallback c (s.trie.depth n) n

end Scanner

end Phrasebook
