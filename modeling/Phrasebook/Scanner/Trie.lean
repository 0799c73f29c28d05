import Phrasebook.Text.Offset
import Phrasebook.Text.Wide

/-!
# The trie of phrases

The trie has a node for each text that begins a phrase. Nodes are numbered in the order in which
they are made; node zero is the root and stands for the empty text. Each other node knows its parent
and the character that leads to it from there, so it spells a text.
-/

namespace Phrasebook.Scanner

/-- An occurrence of a phrase: its length and its place in the list of phrases. -/
structure Match where
  length : Nat
  phrase : Nat
  deriving DecidableEq, Repr

structure Node where
  parent : Nat
  label : CodePoint
  depth : Nat
  children : List (CodePoint × Nat)
  /-- The phrases that the node spells. -/
  ends : List Match

structure Trie where
  nodes : Array Node

namespace Trie

/-- The trie of no phrases. The root's parent and label are never read. -/
def empty : Trie :=
  ⟨#[⟨0, .char '\x00', 0, [], []⟩]⟩

def size (t : Trie) : Nat :=
  t.nodes.size

def child? (t : Trie) (n : Nat) (c : CodePoint) : Option Nat :=
  t.nodes[n]?.bind fun node => node.children.lookup c

def depth (t : Trie) (n : Nat) : Nat :=
  (t.nodes[n]?.map Node.depth).getD 0

/-- The trie with a new node below `n`. -/
def addChild (t : Trie) (n : Nat) (c : CodePoint) : Trie :=
  let depth := t.depth n + 1
  let size := t.size
  let nodes := t.nodes.modify n fun node => { node with children := (c, size) :: node.children }
  ⟨nodes.push ⟨n, c, depth, [], []⟩⟩

/-- The trie with a path for `text` below `n`, and the node at its end. -/
def addPath (t : Trie) (n : Nat) : WideText → Trie × Nat
  | [] => (t, n)
  | c :: cs => match t.child? n c with
    | some m => t.addPath m cs
    | none =>
      let m := t.size
      (t.addChild n c).addPath m cs

/-- The trie with one more phrase. The empty text is no phrase that could occur. -/
def insert (t : Trie) (phrase : WideText) (index : Nat) : Trie :=
  if phrase.isEmpty then t
  else
    let (t, n) := t.addPath 0 phrase
    ⟨t.nodes.modify n fun node => { node with ends := node.ends ++ [⟨phrase.length, index⟩] }⟩

def ofPhrases (phrases : List WideText) : Trie :=
  phrases.zipIdx.foldl (fun t p => t.insert p.1 p.2) empty

end Trie

end Phrasebook.Scanner
