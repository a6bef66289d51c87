import LibreLinux.Wire.OptionsRoundTrip
import LibreLinux.Prompter.Dismissal
import LibreLinux.Agent.PrompterClient
import LibreLinux.Agent.AuthorizedReply
import LibreLinux.Agent.DeferredPublish
import LibreLinux.Results.Conservation
import LibreLinux.Results.Recovery
import LibreLinux.Pkcs11.Enumerate
import LibreLinux.Pkcs11.SlotCache
import LibreLinux.Agent.ObjectTree
import LibreLinux.Pkcs11.Convergence
import LibreLinux.Lib.NestedMaps
import LibreLinux.Results.IdentityWire
import LibreLinux.Pkcs11.CallSteps
import LibreLinux.Pkcs11.OddReplies
import LibreLinux.Pkcs11.SettledCards
import LibreLinux.Pkcs11.CertificateReads
import LibreLinux.Pkcs11.PublicKeys
import LibreLinux.Agent.BusExporter
import LibreLinux.Agent.EventLoopPoster
import LibreLinux.Agent.PresenceAgreement
import LibreLinux.Agent.ReaderHold
import LibreLinux.Lib.Transfers
import LibreLinux.Agent.PosterProgress
import LibreLinux.Agent.SecretTransfer
import LibreLinux.Agent.ProcStat
import LibreLinux.Common.ProcPidPin
import LibreLinux.Prompter.CheckDigit
import LibreLinux.Prompter.MrzForm
import LibreLinux.Prompter.ChangePinCapture
import LibreLinux.Prompter.EntryDeadline
import LibreLinux.Prompter.EncodedReplies
import LibreLinux.Agent.PromptCalls
import LibreLinux.Agent.SignOptions
import LibreLinux.Agent.SignRequests
import LibreLinux.Agent.VisualSignature
import LibreLinux.Prompter.RegistryRuns
import LibreLinux.Pkcs11.KeyTransparency
import LibreLinux.Agent.AuthorizedService
import LibreLinux.Agent.Configuration
import LibreLinux.Agent.PromptExchange
import LibreLinux.Agent.CardAccounts
import LibreLinux.Pkcs11.RemoteCalls
import LibreLinux.Agent.CardSignals
import LibreLinux.Prompter.CallerGate
import LibreLinux.Pkcs11.TokenContents
import LibreLinux.Prompter.EntryForms
import LibreLinux.Results.ReadBack
