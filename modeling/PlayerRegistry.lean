import PlayerRegistry.Config.File
import PlayerRegistry.Proofs.AtomicUpdate
import PlayerRegistry.Proofs.ConcurrentCalls
import PlayerRegistry.Proofs.ConcurrentUpdates
import PlayerRegistry.Proofs.ContentAddressing
import PlayerRegistry.Proofs.DiskStore
import PlayerRegistry.Proofs.LoginDecision
import PlayerRegistry.Proofs.Migration
import PlayerRegistry.Proofs.NameBounds
import PlayerRegistry.Proofs.RequestIsolation
import PlayerRegistry.Proofs.SessionHistory
import PlayerRegistry.Proofs.TableContract
import PlayerRegistry.Proofs.TextureReferences
import PlayerRegistry.Proofs.UuidIdentity
import PlayerRegistry.SigningKey.File
import PlayerRegistry.Site.Respond
import PlayerRegistry.Texture.Disk
import PlayerRegistry.Proofs.Interleavings
import PlayerRegistry.Proofs.LoginStages
import PlayerRegistry.Proofs.AnonymousRace
import PlayerRegistry.Proofs.RacingLogins
import PlayerRegistry.Proofs.PasswordHistory
import PlayerRegistry.Proofs.EnforceableRates
import PlayerRegistry.Proofs.ServedConfigs
import PlayerRegistry.Proofs.IndependentWrites
import PlayerRegistry.Proofs.RetiredIds
import PlayerRegistry.Proofs.DerText
import PlayerRegistry.Proofs.KeyDocuments
import PlayerRegistry.Proofs.KeyFiles
import PlayerRegistry.Proofs.Utf8Text
import PlayerRegistry.Proofs.PercentText
import PlayerRegistry.Proofs.StoredStreams
import PlayerRegistry.Proofs.EncodedPictures
import PlayerRegistry.Proofs.ChallengeSkins
import PlayerRegistry.Proofs.ChallengePages
import PlayerRegistry.Proofs.PrivateHosts
import PlayerRegistry.Proofs.PlayerAddresses
import PlayerRegistry.Proofs.Deletions
import PlayerRegistry.Proofs.CanonicalForms
import PlayerRegistry.Proofs.RecognizedSkins
import PlayerRegistry.Proofs.Downloads
import PlayerRegistry.Proofs.CoveredUsernames
import PlayerRegistry.Proofs.UpdateForms
import PlayerRegistry.Proofs.CalendarDates
import PlayerRegistry.Proofs.SeparateClients
import PlayerRegistry.Proofs.HttpDates
import PlayerRegistry.Proofs.SessionCookies
import PlayerRegistry.Proofs.TextureShapes
import PlayerRegistry.Proofs.SizeTexts
import PlayerRegistry.Proofs.ConfigFiles
