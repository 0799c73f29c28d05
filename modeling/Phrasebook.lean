import Phrasebook.Exports
import Phrasebook.Main
import Phrasebook.Proofs.Forest
import Phrasebook.Proofs.Localizing
import Phrasebook.Proofs.Mapping
import Phrasebook.Proofs.Agreement
import Phrasebook.Proofs.Encoding
import Phrasebook.Proofs.Markup
import Phrasebook.Proofs.Footprint
import Phrasebook.Proofs.Refreshing
import Phrasebook.Proofs.Rounds
import Phrasebook.Proofs.Synchrony
import Phrasebook.Proofs.Retrying
import Phrasebook.Proofs.Selecting
import Phrasebook.Proofs.Reordering
import Phrasebook.Proofs.Endings
import Phrasebook.Proofs.Runs
import Phrasebook.Proofs.Parts
import Phrasebook.Proofs.Standing
import Phrasebook.Proofs.Rescanning
import Phrasebook.Proofs.WholeWords
import Phrasebook.Proofs.Separating
import Phrasebook.Proofs.Undoing
import Phrasebook.Proofs.Halting
import Phrasebook.Proofs.Failing
import Phrasebook.Proofs.FirstGlosses
import Phrasebook.Proofs.Languages
import Phrasebook.Proofs.IndexPages
import Phrasebook.Proofs.Structure
import Phrasebook.Proofs.Guarding
