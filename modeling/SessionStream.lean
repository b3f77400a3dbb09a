import SessionStream.Main
import SessionStream.Proofs.Alternation
import SessionStream.Proofs.Chunking
import SessionStream.Proofs.CommandOutcomes
import SessionStream.Proofs.Conservation
import SessionStream.Proofs.ContiguousWindows
import SessionStream.Proofs.Copying
import SessionStream.Proofs.Courses
import SessionStream.Proofs.FailedOperations
import SessionStream.Proofs.Minting
import SessionStream.Proofs.Negotiation
import SessionStream.Proofs.Phases
import SessionStream.Proofs.Position
import SessionStream.Proofs.RandomAccess
import SessionStream.Proofs.ReplyLines
import SessionStream.Proofs.Resumption
import SessionStream.Proofs.Sizes
import SessionStream.Proofs.SocketNames
import SessionStream.Proofs.StreamEnd
import SessionStream.Proofs.Transcripts
import SessionStream.Proofs.Transports
import SessionStream.Proofs.Unusable
import SessionStream.Proofs.Uploads
import SessionStream.Proofs.Writes
import SessionStream.World
