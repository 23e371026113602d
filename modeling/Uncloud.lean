import Uncloud.Go.Numeric
import Uncloud.Go.Strings
import Uncloud.Go.Filepath
import Uncloud.Go.Platform
import Uncloud.Go.Lexical
import Uncloud.Api.Secret
import Uncloud.Compose.Secret
import Uncloud.Compose.SecretSource
import Uncloud.Compose.SecretPipeline
import Uncloud.Compose.Project
import Uncloud.Compose.Warnings
import Uncloud.Compose.WarningOrder
import Uncloud.Image.Cluster
import Uncloud.Image.Pull
import Uncloud.Image.Prune
import Uncloud.Image.Reports
