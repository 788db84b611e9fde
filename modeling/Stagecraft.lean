import Stagecraft.Definition.Encode
import Stagecraft.Main
import Stagecraft.Proofs.Arrivals
import Stagecraft.Proofs.Choices
import Stagecraft.Proofs.Crossings
import Stagecraft.Proofs.Depth
import Stagecraft.Proofs.Descent
import Stagecraft.Proofs.Dormancy
import Stagecraft.Proofs.Failing
import Stagecraft.Proofs.FolderName
import Stagecraft.Proofs.Isolation
import Stagecraft.Proofs.Matching
import Stagecraft.Proofs.Naming
import Stagecraft.Proofs.Numbering
import Stagecraft.Proofs.Offering
import Stagecraft.Proofs.Origins
import Stagecraft.Proofs.Player
import Stagecraft.Proofs.Pointing
import Stagecraft.Proofs.Program
import Stagecraft.Proofs.References
import Stagecraft.Proofs.Region
import Stagecraft.Proofs.Rerunning
import Stagecraft.Proofs.Saving
import Stagecraft.Proofs.Tables
import Stagecraft.Proofs.Ticking
import Stagecraft.Proofs.Transparency
import Stagecraft.Proofs.Travel
import Stagecraft.Proofs.Turns
import Stagecraft.Proofs.Upkeep
import Stagecraft.Proofs.Waiting
import Stagecraft.Proofs.WellFormed
import Stagecraft.Storage.Disk
